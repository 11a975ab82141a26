import Mathlib.Data.List.Basic
import RowIdentity.Text.Decimal

/-!
# Numerals and their values

* `isNumeral_iff` — a numeral is not empty and holds digits only;
* `value_ofNat`, `isNumeral_ofNat` — a written number is a numeral of that value;
* `isNumeral_ofInt_iff` — a written whole number is a numeral unless it is negative;
* `ofInt_ne_nil`, `le_colon_of_mem_ofInt` — what it is made of in either case;
* `lt_of_natBelow?` — a number that is read within a bound is below it.
-/

namespace RowIdentity.Decimal

theorem isNumeral_iff (cs : List Char) : isNumeral cs = true ↔ cs ≠ [] ∧ ∀ c ∈ cs, c.isDigit = true := by
  simp [isNumeral]

theorem value_ofNat (n : Nat) : value (ofNat n) = n :=
  Nat.ofDigitChars_ten_toDigits

theorem isDigit_of_mem_ofNat {n : Nat} {c : Char} (h : c ∈ ofNat n) : c.isDigit = true :=
  Nat.isDigit_of_mem_toDigits (by decide) (by decide) h

theorem isNumeral_ofNat (n : Nat) : isNumeral (ofNat n) = true :=
  (isNumeral_iff _).2 ⟨Nat.toDigits_ne_nil, fun _ h => isDigit_of_mem_ofNat h⟩

/-- A minus sign is no digit. -/
theorem isNumeral_ofInt_iff (n : Int) : isNumeral (ofInt n) = true ↔ 0 ≤ n := by
  cases n with
  | ofNat n => simp [ofInt, isNumeral_ofNat]
  | negSucc n => simp [ofInt, isNumeral]

theorem ofInt_ne_nil (n : Int) : ofInt n ≠ [] := by
  cases n with
  | ofNat n => exact Nat.toDigits_ne_nil
  | negSucc n => simp [ofInt]

theorem le_colon_of_isDigit {c : Char} (h : c.isDigit = true) : c.toNat ≤ 0x3A := by
  have := (Char.isDigit_iff_toNat.1 h).2
  change c.toNat ≤ 57 at this
  omega

/-- Digits and the minus sign come before the colon. -/
theorem le_colon_of_mem_ofInt {n : Int} {c : Char} (h : c ∈ ofInt n) : c.toNat ≤ 0x3A := by
  cases n with
  | ofNat n => exact le_colon_of_isDigit (isDigit_of_mem_ofNat h)
  | negSucc n =>
    rcases List.mem_cons.1 h with rfl | h
    · decide
    · exact le_colon_of_isDigit (isDigit_of_mem_ofNat h)

theorem lt_of_natBelow? {bound n : Nat} {cs : List Char} (h : natBelow? bound cs = some n) : n < bound := by
  unfold natBelow? at h
  dsimp only at h
  generalize (if cs.head? = some '+' then cs.tail else cs) = digits at h
  split at h
  next hbelow =>
    obtain rfl := Option.some.inj h
    exact of_decide_eq_true (Bool.and_eq_true_iff.1 hbelow).2
  next => cases h

@[simp] theorem toList_text (n : Int) : (text n).toList = ofInt n := by
  simp [text]

end RowIdentity.Decimal
