import Mathlib.Data.List.Basic
import RowIdentity.Text.Base64
import RowIdentity.Text.Utf8

/-!
# Texts as bytes and bytes as texts

* `Utf8.decode?_encode`, `Utf8.encode_of_decode?` — UTF-8 loses nothing, and a text has one byte form;
* `Base64.decode?_encode`, `Base64.encode_of_decode?` — base64 loses nothing either, and bytes have one text;
* `Base64.mem_of_decode?` — what a decoded text is made of;
* `Base64.decode?_digits` — a text of decimal digits decodes to bytes of which the last but one lies above
  the colon: the digits have the values 52 to 61, and their low four bits, at least 4, head that byte.
-/

namespace RowIdentity

/-! ## UTF-8 -/

namespace Utf8

@[simp] theorem decode?_encode (s : String) : decode? (encode s) = some s := by
  have h : (⟨(encode s).toArray⟩ : ByteArray) = s.toByteArray := rfl
  have hv : s.toByteArray.IsValidUTF8 := s.isValidUTF8
  unfold decode? String.fromUTF8?
  rw [h, dif_pos hv]
  rfl

theorem encode_of_decode? {bytes : List UInt8} {s : String} (h : decode? bytes = some s) :
    encode s = bytes := by
  unfold decode? String.fromUTF8? at h
  split at h
  · obtain rfl := Option.some.inj h
    rfl
  · cases h

theorem encode_injective : Function.Injective encode := by
  intro s t h
  exact Option.some.inj (by rw [← decode?_encode s, h, decode?_encode])

theorem encode_append (s t : String) : encode (s ++ t) = encode s ++ encode t := by
  simp [encode]

theorem encode_singleton {c : Char} (h : c.toNat < 128) :
    encode (String.ofList [c]) = [UInt8.ofNat c.toNat] := by
  have h' : c.toNat ≤ 0x7f := Nat.le_of_lt_succ h
  simp only [encode, String.toByteArray_ofList, List.utf8Encode_singleton, String.utf8EncodeChar,
    List.data_toByteArray, Char.toNat_val, if_pos h']

end Utf8

/-! ## Base64 -/

namespace Base64

/-- The value of a digit is the number it was written for. -/
theorem digitValue?_digit : ∀ n < 64, digitValue? (digit n) = some n := by decide

/-- A digit is written for its value. -/
theorem digit_of_digitValue? {c : Char} {v : Nat} (h : digitValue? c = some v) : v < 64 ∧ digit v = c := by
  have hle : ∀ a b : Char, a ≤ b ↔ a.toNat ≤ b.toNat := fun a b => Iff.rfl
  have hc := Char.ofNat_toNat c
  simp only [digitValue?, Bool.and_eq_true, decide_eq_true_eq, hle, Char.reduceToNat] at h
  split at h
  next hu =>
    obtain rfl := Option.some.inj h
    refine ⟨by omega, ?_⟩
    rw [digit, if_pos (by omega), show 65 + (c.toNat - 65) = c.toNat by omega, hc]
  next =>
  split at h
  next hl =>
    obtain rfl := Option.some.inj h
    refine ⟨by omega, ?_⟩
    rw [digit, if_neg (by omega), if_pos (by omega),
      show 97 + (c.toNat - 97 + 26 - 26) = c.toNat by omega, hc]
  next =>
  split at h
  next hd =>
    obtain rfl := Option.some.inj h
    refine ⟨by omega, ?_⟩
    rw [digit, if_neg (by omega), if_neg (by omega), if_pos (by omega),
      show 48 + (c.toNat - 48 + 52 - 52) = c.toNat by omega, hc]
  next =>
  split at h
  next hp =>
    obtain rfl := Option.some.inj h
    exact ⟨by decide, hp ▸ rfl⟩
  next =>
  split at h
  next hs =>
    obtain rfl := Option.some.inj h
    exact ⟨by decide, hs ▸ rfl⟩
  next => cases h

theorem digit_ne_pad : ∀ n < 64, digit n ≠ '=' := by decide

theorem digitValue?_decimal : ∀ n < 10, digitValue? (Char.ofNat (48 + n)) = some (52 + n) := by decide

/-- The decimal digits stand for 52 to 61. -/
theorem digitValue_bounds {c : Char} {v : Nat} (hc : c.isDigit = true) (h : digitValue? c = some v) :
    52 ≤ v ∧ v ≤ 61 := by
  obtain ⟨h1, h2⟩ := Char.isDigit_iff_toNat.1 hc
  change 48 ≤ c.toNat at h1
  change c.toNat ≤ 57 at h2
  have hd := digitValue?_decimal (c.toNat - 48) (by omega)
  rw [Nat.add_sub_cancel' h1, Char.ofNat_toNat, h] at hd
  obtain rfl := Option.some.inj hd
  omega

theorem toNat_ofNat {n : Nat} (h : n < 256) : (UInt8.ofNat n).toNat = n :=
  UInt8.toNat_ofNat_of_lt' h

theorem ofNat_of_eq {n : Nat} {a : UInt8} (h : n = a.toNat) : UInt8.ofNat n = a := by
  rw [h, UInt8.ofNat_toNat]

theorem decode?_encode (bytes : List UInt8) : decode? (encode bytes) = some bytes := by
  fun_induction encode bytes with
  | case1 => rfl
  | case2 a =>
    have ha : a.toNat < 256 := a.toNat_lt
    have e1 : UInt8.ofNat (a.toNat / 4 * 4 + a.toNat % 4 * 16 / 16) = a := ofNat_of_eq (by omega)
    have h0 : a.toNat % 4 * 16 % 16 = 0 := by omega
    rw [decode?, digitValue?_digit _ (by omega), digitValue?_digit _ (by omega)]
    simp only [Option.bind_eq_bind, Option.bind_some, if_pos h0, e1]
  | case3 a b =>
    have ha : a.toNat < 256 := a.toNat_lt
    have hb : b.toNat < 256 := b.toNat_lt
    have e1 : UInt8.ofNat (a.toNat / 4 * 4 + (a.toNat % 4 * 16 + b.toNat / 16) / 16) = a :=
      ofNat_of_eq (by omega)
    have e2 : UInt8.ofNat ((a.toNat % 4 * 16 + b.toNat / 16) % 16 * 16 + b.toNat % 16 * 4 / 4) = b :=
      ofNat_of_eq (by omega)
    have h0 : b.toNat % 16 * 4 % 4 = 0 := by omega
    have hpad := digit_ne_pad (b.toNat % 16 * 4) (by omega)
    rw [decode?.eq_3 _ _ _ hpad, digitValue?_digit _ (by omega), digitValue?_digit _ (by omega),
      digitValue?_digit _ (by omega)]
    simp only [Option.bind_eq_bind, Option.bind_some, if_pos h0, e1, e2]
  | case4 a b c rest ih =>
    have ha : a.toNat < 256 := a.toNat_lt
    have hb : b.toNat < 256 := b.toNat_lt
    have hc : c.toNat < 256 := c.toNat_lt
    have e1 : UInt8.ofNat (a.toNat / 4 * 4 + (a.toNat % 4 * 16 + b.toNat / 16) / 16) = a :=
      ofNat_of_eq (by omega)
    have e2 : UInt8.ofNat ((a.toNat % 4 * 16 + b.toNat / 16) % 16 * 16 +
        (b.toNat % 16 * 4 + c.toNat / 64) / 4) = b := ofNat_of_eq (by omega)
    have e3 : UInt8.ofNat ((b.toNat % 16 * 4 + c.toNat / 64) % 4 * 64 + c.toNat % 64) = c :=
      ofNat_of_eq (by omega)
    have hpad := digit_ne_pad (c.toNat % 64) (by omega)
    rw [decode?.eq_4 _ _ _ _ _ (fun _ h _ => hpad h) (fun h _ => hpad h), digitValue?_digit _ (by omega),
      digitValue?_digit _ (by omega), digitValue?_digit _ (by omega), digitValue?_digit _ (by omega), ih]
    simp only [Option.bind_eq_bind, Option.bind_some, e1, e2, e3]

/-- Only the written form decodes: padding is not left out, and no spare bit is set. -/
theorem encode_of_decode? {cs : List Char} {bytes : List UInt8} (h : decode? cs = some bytes) :
    encode bytes = cs := by
  fun_induction decode? cs generalizing bytes with
  | case1 =>
    obtain rfl := Option.some.inj h
    rfl
  | case2 p q =>
    simp only [Option.bind_eq_bind, Option.bind_eq_some_iff, Option.ite_none_right_eq_some] at h
    obtain ⟨p', hp, q', hq, h0, he⟩ := h
    obtain rfl := Option.some.inj he
    obtain ⟨hp64, rfl⟩ := digit_of_digitValue? hp
    obtain ⟨hq64, rfl⟩ := digit_of_digitValue? hq
    have e : (UInt8.ofNat (p' * 4 + q' / 16)).toNat = p' * 4 + q' / 16 :=
      toNat_ofNat (by omega)
    simp only [encode, e]
    rw [show (p' * 4 + q' / 16) / 4 = p' by omega, show (p' * 4 + q' / 16) % 4 * 16 = q' by omega]
  | case3 p q r _ =>
    simp only [Option.bind_eq_bind, Option.bind_eq_some_iff, Option.ite_none_right_eq_some] at h
    obtain ⟨p', hp, q', hq, r', hr, h0, he⟩ := h
    obtain rfl := Option.some.inj he
    obtain ⟨hp64, rfl⟩ := digit_of_digitValue? hp
    obtain ⟨hq64, rfl⟩ := digit_of_digitValue? hq
    obtain ⟨hr64, rfl⟩ := digit_of_digitValue? hr
    have e1 : (UInt8.ofNat (p' * 4 + q' / 16)).toNat = p' * 4 + q' / 16 :=
      toNat_ofNat (by omega)
    have e2 : (UInt8.ofNat (q' % 16 * 16 + r' / 4)).toNat = q' % 16 * 16 + r' / 4 :=
      toNat_ofNat (by omega)
    simp only [encode, e1, e2]
    rw [show (p' * 4 + q' / 16) / 4 = p' by omega,
      show (p' * 4 + q' / 16) % 4 * 16 + (q' % 16 * 16 + r' / 4) / 16 = q' by omega,
      show (q' % 16 * 16 + r' / 4) % 16 * 4 = r' by omega]
  | case4 p q r s rest _ _ ih =>
    simp only [Option.bind_eq_bind, Option.bind_eq_some_iff] at h
    obtain ⟨p', hp, q', hq, r', hr, s', hs, bs, hbs, he⟩ := h
    obtain rfl := Option.some.inj he
    obtain ⟨hp64, rfl⟩ := digit_of_digitValue? hp
    obtain ⟨hq64, rfl⟩ := digit_of_digitValue? hq
    obtain ⟨hr64, rfl⟩ := digit_of_digitValue? hr
    obtain ⟨hs64, rfl⟩ := digit_of_digitValue? hs
    have e1 : (UInt8.ofNat (p' * 4 + q' / 16)).toNat = p' * 4 + q' / 16 :=
      toNat_ofNat (by omega)
    have e2 : (UInt8.ofNat (q' % 16 * 16 + r' / 4)).toNat = q' % 16 * 16 + r' / 4 :=
      toNat_ofNat (by omega)
    have e3 : (UInt8.ofNat (r' % 4 * 64 + s')).toNat = r' % 4 * 64 + s' :=
      toNat_ofNat (by omega)
    simp only [encode, e1, e2, e3, ih hbs]
    rw [show (p' * 4 + q' / 16) / 4 = p' by omega,
      show (p' * 4 + q' / 16) % 4 * 16 + (q' % 16 * 16 + r' / 4) / 16 = q' by omega,
      show (q' % 16 * 16 + r' / 4) % 16 * 4 + (r' % 4 * 64 + s') / 64 = r' by omega,
      show (r' % 4 * 64 + s') % 64 = s' by omega]
  | case5 => cases h

/-- A text that can be decoded holds digits and padding only. -/
theorem mem_of_decode? {cs : List Char} {bytes : List UInt8} (h : decode? cs = some bytes) :
    ∀ c ∈ cs, c = '=' ∨ (digitValue? c).isSome := by
  fun_induction decode? cs generalizing bytes with
  | case1 => simp
  | case2 p q =>
    simp only [Option.bind_eq_bind, Option.bind_eq_some_iff] at h
    obtain ⟨p', hp, q', hq, -⟩ := h
    simp [hp, hq]
  | case3 p q r _ =>
    simp only [Option.bind_eq_bind, Option.bind_eq_some_iff] at h
    obtain ⟨p', hp, q', hq, r', hr, -⟩ := h
    simp [hp, hq, hr]
  | case4 p q r s rest _ _ ih =>
    simp only [Option.bind_eq_bind, Option.bind_eq_some_iff] at h
    obtain ⟨p', hp, q', hq, r', hr, s', hs, bs, hbs, -⟩ := h
    simpa [hp, hq, hr, hs] using ih hbs
  | case5 => cases h

/-- A text of decimal digits decodes to nothing, or to bytes that end in three of which the middle one lies
above the colon. -/
theorem decode?_digits {cs : List Char} {bytes : List UInt8} (hcs : ∀ c ∈ cs, c.isDigit = true)
    (h : decode? cs = some bytes) :
    bytes = [] ∨ ∃ front a b c, bytes = front ++ [a, b, c] ∧ 0x3A < b.toNat := by
  have hpad : ('=' : Char).isDigit = false := by decide
  fun_induction decode? cs generalizing bytes with
  | case1 => exact Or.inl (Option.some.inj h).symm
  | case2 p q => simp [hpad] at hcs
  | case3 p q r _ => simp [hpad] at hcs
  | case4 p q r s rest _ _ ih =>
    simp only [Option.bind_eq_bind, Option.bind_eq_some_iff] at h
    obtain ⟨p', hp, q', hq, r', hr, s', hs, bs, hbs, he⟩ := h
    obtain rfl := Option.some.inj he
    simp only [List.mem_cons, forall_eq_or_imp] at hcs
    obtain ⟨-, hq', hr', -, hrest⟩ := hcs
    rcases ih hrest hbs with rfl | ⟨front, a, b, c, rfl, hb⟩
    · -- the last group: the low bits of its second digit head the middle byte, which is at least 64
      right
      refine ⟨[], _, _, _, rfl, ?_⟩
      have hq52 := digitValue_bounds hq' hq
      have hr52 := digitValue_bounds hr' hr
      rw [toNat_ofNat (by omega)]
      omega
    · right
      exact ⟨_ :: _ :: _ :: front, a, b, c, rfl, hb⟩
  | case5 => cases h

end Base64

end RowIdentity
