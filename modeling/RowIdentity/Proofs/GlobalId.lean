import Mathlib.Tactic.Ring
import RowIdentity.Proofs.ExternalId

/-!
# The codec of legacy global ids

A legacy global id is base64 of a type name, a colon and an id. Clients hold on to these texts, so that a text
which decodes to a pair has to be the one text that was ever handed out for it.

* `Base64.bits` — numbers in bits, high and low parts apart;
* `Base64.Spells` — what base64 is, by bits and with no word of groups: six bits a letter, zeros up to a whole
  letter, padding up to a whole group;
* `Base64.eq_encode_iff_spells` — the written form of bytes is the only text that spells them;
* `globalId_codec_exact` — the codec accepts what it writes and nothing else.
-/

namespace RowIdentity

namespace Base64

/-! ## Numbers in bits -/

/-- The low bits of a number, the highest of them first. -/
def bits : Nat → Nat → List Bool
  | 0, _ => []
  | w + 1, n => bits w (n / 2) ++ [n % 2 == 1]

@[simp] theorem length_bits (w n : Nat) : (bits w n).length = w := by
  induction w generalizing n with
  | zero => rfl
  | succ w ih => simp [bits, ih]

theorem bits_zero (w : Nat) : bits w 0 = List.replicate w false := by
  induction w with
  | zero => rfl
  | succ w ih => rw [bits, Nat.zero_div, ih, List.replicate_succ']; rfl

/-- A number put together from a high and a low part has the bits of both. -/
theorem bits_append {w n u v x y : Nat} (hw : w = u + v) (hn : n = x * 2 ^ v + y) (hy : y < 2 ^ v) :
    bits w n = bits u x ++ bits v y := by
  subst hw hn
  induction v generalizing y with
  | zero =>
    obtain rfl : y = 0 := by simpa using hy
    simp [bits]
  | succ v ih =>
    have hpow : x * 2 ^ (v + 1) = 2 * (x * 2 ^ v) := by ring
    have hhalf : (x * 2 ^ (v + 1) + y) / 2 = x * 2 ^ v + y / 2 := by omega
    have hlow : (x * 2 ^ (v + 1) + y) % 2 = y % 2 := by omega
    rw [← Nat.add_assoc, bits, hhalf, hlow, ih (by omega), bits, List.append_assoc]

/-! A byte is cut after six, four or two bits; a letter is put together after two or four. -/

theorem bits_byte_six (n : Nat) : bits 8 n = bits 6 (n / 4) ++ bits 2 (n % 4) :=
  bits_append rfl (by omega) (by omega)

theorem bits_byte_four (n : Nat) : bits 8 n = bits 4 (n / 16) ++ bits 4 (n % 16) :=
  bits_append rfl (by omega) (by omega)

theorem bits_byte_two (n : Nat) : bits 8 n = bits 2 (n / 64) ++ bits 6 (n % 64) :=
  bits_append rfl (by omega) (by omega)

theorem bits_letter_two {x y : Nat} (hy : y < 16) : bits 6 (x * 16 + y) = bits 2 x ++ bits 4 y :=
  bits_append rfl (by omega) (by omega)

theorem bits_letter_four {x y : Nat} (hy : y < 4) : bits 6 (x * 4 + y) = bits 4 x ++ bits 2 y :=
  bits_append rfl (by omega) (by omega)

theorem bits_inj {w n m : Nat} (hn : n < 2 ^ w) (hm : m < 2 ^ w) (h : bits w n = bits w m) : n = m := by
  induction w generalizing n m with
  | zero => omega
  | succ w ih =>
    obtain ⟨hhigh, hlow⟩ := List.append_inj' h rfl
    have hdiv : n / 2 = m / 2 := ih (by omega) (by omega) hhigh
    have hmod : (n % 2 == 1) = (m % 2 == 1) := (List.cons.inj hlow).1
    rw [Bool.eq_iff_iff, beq_iff_eq, beq_iff_eq] at hmod
    omega

/-! ## What a text spells -/

/-- The standard alphabet. -/
def alphabet : List Char := "ABCDEFGHIJKLMNOPQRSTUVWXYZabcdefghijklmnopqrstuvwxyz0123456789+/".toList

/-- The letter at a place of the alphabet. -/
def letter (v : Fin 64) : Char := alphabet.get (v.cast (by decide))

theorem digit_eq_letter : ∀ v : Fin 64, digit v = letter v := by decide

/-- A text spells bytes when its letters, taken as six bits each, are the bits of the bytes followed by zeros
where the last letter is not full, and `=` fills its last group of four. -/
def Spells (cs : List Char) (bytes : List UInt8) : Prop :=
  ∃ (values : List (Fin 64)) (zeros pads : Nat),
    cs = values.map letter ++ List.replicate pads '=' ∧
    values.flatMap (fun v => bits 6 v.val) = bytes.flatMap (fun b => bits 8 b.toNat) ++ List.replicate zeros false ∧
    zeros < 6 ∧ pads < 4 ∧ 4 ∣ cs.length

theorem spells_encode (bytes : List UInt8) : Spells (encode bytes) bytes := by
  fun_induction encode bytes with
  | case1 => exact ⟨[], 0, 0, rfl, rfl, by decide, by decide, by decide⟩
  | case2 a =>
    have ha : a.toNat < 256 := a.toNat_lt
    refine ⟨[⟨a.toNat / 4, by omega⟩, ⟨a.toNat % 4 * 16, by omega⟩], 4, 2, ?_, ?_, by decide, by decide, by simp⟩
    · simp [← digit_eq_letter, List.replicate]
    · have hlast : bits 6 (a.toNat % 4 * 16) = bits 2 (a.toNat % 4) ++ bits 4 0 :=
        bits_append rfl (by omega) (by omega)
      simp only [List.flatMap_cons, List.flatMap_nil, hlast, bits_byte_six, bits_zero, List.append_assoc,
        List.append_nil]
  | case3 a b =>
    have ha : a.toNat < 256 := a.toNat_lt
    have hb : b.toNat < 256 := b.toNat_lt
    refine ⟨[⟨a.toNat / 4, by omega⟩, ⟨a.toNat % 4 * 16 + b.toNat / 16, by omega⟩,
      ⟨b.toNat % 16 * 4, by omega⟩], 2, 1, ?_, ?_, by decide, by decide, by simp⟩
    · simp [← digit_eq_letter, List.replicate]
    · have hhigh : b.toNat / 16 < 16 := by omega
      have hlast : bits 6 (b.toNat % 16 * 4) = bits 4 (b.toNat % 16) ++ bits 2 0 :=
        bits_append rfl (by omega) (by omega)
      simp only [List.flatMap_cons, List.flatMap_nil, bits_letter_two hhigh, hlast, bits_byte_six a.toNat,
        bits_byte_four b.toNat, bits_zero, List.append_assoc, List.append_nil]
  | case4 a b c rest ih =>
    have ha : a.toNat < 256 := a.toNat_lt
    have hb : b.toNat < 256 := b.toNat_lt
    have hc : c.toNat < 256 := c.toNat_lt
    obtain ⟨values, zeros, pads, htext, hbits, hz, hp, hlen⟩ := ih
    refine ⟨⟨a.toNat / 4, by omega⟩ :: ⟨a.toNat % 4 * 16 + b.toNat / 16, by omega⟩ ::
      ⟨b.toNat % 16 * 4 + c.toNat / 64, by omega⟩ :: ⟨c.toNat % 64, by omega⟩ :: values,
      zeros, pads, ?_, ?_, hz, hp, ?_⟩
    · simp [← digit_eq_letter, htext]
    · have hhigh : b.toNat / 16 < 16 := by omega
      have hhigh' : c.toNat / 64 < 4 := by omega
      simp only [List.flatMap_cons, bits_letter_two hhigh, bits_letter_four hhigh', bits_byte_six a.toNat,
        bits_byte_four b.toNat, bits_byte_two c.toNat, hbits, List.append_assoc]
    · simpa [Nat.dvd_add_left] using hlen

theorem flatMap_bits_inj {vs ws : List (Fin 64)}
    (h : vs.flatMap (fun v => bits 6 v.val) = ws.flatMap fun v => bits 6 v.val) : vs = ws := by
  induction vs generalizing ws with
  | nil =>
    cases ws with
    | nil => rfl
    | cons w ws =>
      have hlen := congrArg List.length h
      simp at hlen
      omega
  | cons v vs ih =>
    cases ws with
    | nil =>
      simpa using congrArg List.length h
    | cons w ws =>
      obtain ⟨hv, hvs⟩ := List.append_inj h (by simp)
      rw [Fin.ext (bits_inj v.isLt w.isLt hv), ih hvs]

/-- The lengths leave no choice: the letters are as many as the bits need, the zeros fill the last of them, and
the padding the last group. -/
theorem Spells.unique {cs ds : List Char} {bytes : List UInt8} (hc : Spells cs bytes) (hd : Spells ds bytes) :
    cs = ds := by
  obtain ⟨vs, z, p, rfl, hv, hz, hp, hpl⟩ := hc
  obtain ⟨ws, y, q, rfl, hw, hy, hq, hql⟩ := hd
  have hvl := congrArg List.length hv
  have hwl := congrArg List.length hw
  simp only [List.length_flatMap, length_bits, List.map_const', List.sum_replicate_nat, List.length_append,
    List.length_replicate, List.length_map] at hvl hwl hpl hql
  obtain rfl : z = y := by omega
  have hvw : vs = ws := flatMap_bits_inj (by rw [hv, hw])
  obtain rfl : p = q := by
    subst hvw
    omega
  rw [hvw]

theorem decode?_eq_some_iff (cs : List Char) (bytes : List UInt8) : decode? cs = some bytes ↔ cs = encode bytes :=
  ⟨fun h => (encode_of_decode? h).symm, fun h => h ▸ decode?_encode bytes⟩

theorem eq_encode_iff_spells (cs : List Char) (bytes : List UInt8) : cs = encode bytes ↔ Spells cs bytes :=
  ⟨fun h => h ▸ spells_encode bytes, fun h => h.unique (spells_encode bytes)⟩

end Base64

/-! ## The codec -/

theorem eq_encodeGlobalId_iff (g t id : String) :
    g = encodeGlobalId t id ↔ g.toList = Base64.encode (Utf8.encode (t ++ ":" ++ id)) := by
  rw [encodeGlobalId, ← String.toList_inj, String.toList_ofList]

theorem decodeGlobalId_eq_ok_iff_eq (g t id : String) :
    decodeGlobalId g = .ok (t, id) ↔ t ≠ "" ∧ ':' ∉ t.toList ∧ id ≠ "" ∧ g = encodeGlobalId t id := by
  rw [decodeGlobalId_eq_ok_iff, Base64.decode?_eq_some_iff, ← eq_encodeGlobalId_iff]
  constructor
  · rintro ⟨hg, ht, hc, hid⟩
    exact ⟨ht, hc, hid, hg⟩
  · rintro ⟨ht, hc, hid, hg⟩
    exact ⟨hg, ht, hc, hid⟩

/-- **The codec of legacy global ids is exact**: what decodes is what was written for the pair, the written form is
base64 of the pair to the bit, no other text has the pair, and a text that was not written for any pair is refused
as malformed. -/
theorem globalId_codec_exact (g : String) :
    (∀ t id, decodeGlobalId g = .ok (t, id) ↔ t ≠ "" ∧ ':' ∉ t.toList ∧ id ≠ "" ∧ g = encodeGlobalId t id) ∧
      (∀ t id, g = encodeGlobalId t id ↔ Base64.Spells g.toList (Utf8.encode (t ++ ":" ++ id))) ∧
      (∀ t id g', decodeGlobalId g = .ok (t, id) → decodeGlobalId g' = .ok (t, id) → g' = g) ∧
      ((∀ t id, t ≠ "" → ':' ∉ t.toList → id ≠ "" → g ≠ encodeGlobalId t id) →
        ∃ reason, decodeGlobalId g = .error (.invalidFormat g reason)) := by
  refine ⟨decodeGlobalId_eq_ok_iff_eq g, fun t id => ?_, fun t id g' h h' => ?_, fun hne => ?_⟩
  · rw [eq_encodeGlobalId_iff, Base64.eq_encode_iff_spells]
  · obtain ⟨-, -, -, hg⟩ := (decodeGlobalId_eq_ok_iff_eq g t id).1 h
    obtain ⟨-, -, -, hg'⟩ := (decodeGlobalId_eq_ok_iff_eq g' t id).1 h'
    rw [hg, hg']
  · cases hg : decodeGlobalId g with
    | ok p =>
      obtain ⟨ht, hc, hid, he⟩ := (decodeGlobalId_eq_ok_iff_eq g p.1 p.2).1 hg
      exact absurd he (hne _ _ ht hc hid)
    | error e =>
      obtain ⟨reason, rfl⟩ := decodeGlobalId_error hg
      exact ⟨reason, rfl⟩

/-- A type name with a letter of two bytes, an id with a colon of its own, and a last group that is padded. With a
spare bit of that group set the text is malformed. -/
theorem globalId_codec_exact_padded :
    decodeGlobalId "V8OvZGdldDo0OjI=" = .ok ("Wïdget", "4:2") ∧
      (∀ g, decodeGlobalId g = .ok ("Wïdget", "4:2") → g = "V8OvZGdldDo0OjI=") ∧
      ∃ reason, decodeGlobalId "V8OvZGdldDo0OjJ=" = .error (.invalidFormat "V8OvZGdldDo0OjJ=" reason) := by
  have hdecode : decodeGlobalId "V8OvZGdldDo0OjI=" = .ok ("Wïdget", "4:2") := by decide +kernel
  have hrefused : decodeGlobalId "V8OvZGdldDo0OjJ=" =
      .error (.invalidFormat "V8OvZGdldDo0OjJ=" "not a base64 global id") := by decide +kernel
  refine ⟨hdecode, fun g hg => (globalId_codec_exact _).2.2.1 _ _ g hdecode hg,
    (globalId_codec_exact _).2.2.2 fun t id ht hc hid he => ?_⟩
  have hok := ((globalId_codec_exact _).1 t id).2 ⟨ht, hc, hid, he⟩
  rw [hrefused] at hok
  cases hok

end RowIdentity
