import Mathlib.Data.Nat.Digits.Lemmas
import RowIdentity.Proofs.ExternalId

/-!
# The texts that name a UUID

A public id is written in one way and read in many. What is read is told here by the 128-bit number behind the id: its
hexadecimal digits stand in one of four layouts, in either case.

* `Uuid.number` — the number of a UUID; by `Uuid.bijOn_number` the UUIDs are the numbers of 128 bits;
* `Uuid.version`, `Uuid.variant` — the two bit fields of the number, which `Uuid.isV4_iff` finds in the digits;
* `Uuid.textIn` — the lowercase text of a UUID in a layout;
* `Uuid.parse?_eq_some_iff` — **what is read**: the four texts of the UUID, whatever their case;
* `publicIdText_exact` — the canonical texts are the hyphenated texts of version 4, and each of them is read and
  printed as itself.
-/

namespace RowIdentity

open Hexadecimal

namespace Uuid

/-! ## Numbers of 128 bits -/

/-- The number of a UUID; its most significant digit in base sixteen comes first. -/
def number (u : Uuid) : Nat := Nat.ofDigits 16 (u.digits.reverse.map Fin.val)

theorem lt_of_mem_places (ds : List (Fin 16)) : ∀ d ∈ ds.map Fin.val, d < 16 := by
  intro d hd
  obtain ⟨f, -, rfl⟩ := List.mem_map.1 hd
  exact f.isLt

theorem number_lt (u : Uuid) : u.number < 2 ^ 128 := by
  have h := Nat.ofDigits_lt_base_pow_length (b := 16) (by decide) (lt_of_mem_places u.digits.reverse)
  rw [List.length_map, List.length_reverse, u.length_digits] at h
  exact h

theorem number_injective : Function.Injective number := by
  rintro ⟨ds, hds⟩ ⟨es, hes⟩ h
  have hplaces :=
    Nat.ofDigits_inj_of_len_eq (by decide) (by simp [hds, hes]) (lt_of_mem_places _) (lt_of_mem_places _) h
  have hdigits : ds = es := List.reverse_injective (List.map_injective_iff.2 Fin.val_injective hplaces)
  subst hdigits
  rfl

theorem exists_number {n : Nat} (hn : n < 2 ^ 128) : ∃ u : Uuid, u.number = n := by
  obtain ⟨ds, ⟨hlength, hlt⟩, rfl⟩ :=
    (Nat.bijOn_ofDigits (b := 16) (by decide) 32).surjOn (show n < 16 ^ 32 from hn)
  lift ds to List (Fin 16) using hlt
  rw [List.length_map] at hlength
  exact ⟨⟨ds.reverse, by rw [List.length_reverse, hlength]⟩, by simp [number]⟩

/-- **The UUIDs are the numbers of 128 bits**, each of them once. -/
theorem bijOn_number : Set.BijOn number Set.univ {n | n < 2 ^ 128} := by
  refine ⟨fun u _ => u.number_lt, number_injective.injOn, fun n hn => ?_⟩
  obtain ⟨u, hu⟩ := exists_number hn
  exact ⟨u, Set.mem_univ u, hu⟩

/-- The digit of the number at a place. -/
theorem number_div_pow_mod (u : Uuid) {i : Nat} (hi : i < u.digits.length) :
    u.number / 16 ^ (31 - i) % 16 = u.digits[i].val := by
  have hlength := u.length_digits
  have hplace : 31 - i < (u.digits.reverse.map Fin.val).length := by
    rw [List.length_map, List.length_reverse]
    omega
  rw [number, Nat.ofDigits_div_pow_eq_ofDigits_drop _ (by decide) _ (lt_of_mem_places _),
    List.drop_eq_getElem_cons hplace, Nat.ofDigits_cons, Nat.add_mul_mod_self_left, List.getElem_map,
    List.getElem_reverse, Nat.mod_eq_of_lt (Fin.isLt _)]
  congr 2
  omega

/-! ### Version and variant -/

/-- The version: the high four bits of the seventh byte. -/
def version (u : Uuid) : Nat := u.number / 2 ^ 76 % 2 ^ 4

/-- The variant: the high two bits of the ninth byte. -/
def variant (u : Uuid) : Nat := u.number / 2 ^ 62 % 2 ^ 2

theorem version_eq (u : Uuid) (h : 12 < u.digits.length) : u.version = u.digits[12].val := by
  rw [← u.number_div_pow_mod h]
  rfl

theorem variant_eq (u : Uuid) (h : 16 < u.digits.length) : u.variant = u.digits[16].val / 4 := by
  rw [← u.number_div_pow_mod h, variant, show 2 ^ 62 = 16 ^ (31 - 16) * 4 from rfl, ← Nat.div_div_eq_div_mul]
  omega

/-- Version 4 with the RFC variant, by the bits. -/
theorem isV4_iff (u : Uuid) : u.IsV4 ↔ u.version = 4 ∧ u.variant = 0b10 := by
  have hlength := u.length_digits
  have h12 : 12 < u.digits.length := by omega
  have h16 : 16 < u.digits.length := by omega
  rw [IsV4, u.version_eq h12, u.variant_eq h16, List.getElem?_eq_getElem h12, List.getElem?_eq_getElem h16]
  refine and_congr ?_ ?_
  · rw [Option.some.injEq, ← Fin.val_inj]
    rfl
  · simp only [Option.any_some, Bool.and_eq_true, decide_eq_true_eq]
    omega

/-! ## Layouts -/

/-- How the thirty-two digits of a UUID are laid out. -/
inductive Layout where
  | bare
  | hyphenated
  | braced
  | urn
deriving DecidableEq, Repr

/-- The label of a URN. -/
def urnLabel : List Char := "urn:uuid:".toList

theorem length_urnLabel : urnLabel.length = 9 := by decide

/-- Digits in a layout. -/
def Layout.write : Layout → List Char → List Char
  | bare, ds => ds
  | hyphenated, ds => hyphenate ds
  | braced, ds => '{' :: (hyphenate ds ++ ['}'])
  | urn, ds => urnLabel ++ hyphenate ds

/-- The thirty-two lowercase hexadecimal digits of a number. -/
def hex (n : Nat) : List Char := (List.range 32).map fun i => Nat.digitChar (n / 16 ^ (31 - i) % 16)

/-- The lowercase text of a UUID in a layout. -/
def textIn (u : Uuid) (layout : Layout) : String := String.ofList (layout.write (hex u.number))

theorem digit_eq_digitChar : ∀ d : Fin 16, digit d = Nat.digitChar d.val := by decide

theorem map_digit (u : Uuid) : u.digits.map digit = hex u.number := by
  refine List.ext_getElem (by simp [hex, u.length_digits]) fun i hi _ => ?_
  rw [List.length_map] at hi
  rw [List.getElem_map, digit_eq_digitChar, ← u.number_div_pow_mod hi]
  simp [hex]

/-- The text that is shown is the hyphenated one. -/
theorem toText_eq (u : Uuid) : u.toText = u.textIn .hyphenated := by
  rw [toText, toChars, map_digit]
  rfl

/-! ## Texts in either case -/

/-- Only ASCII letters are lowercased. -/
theorem toLower_of_le {c : Char} (h : 128 ≤ c.toNat) : c.toLower = c := by
  have hupper : ¬ (c.val ≥ 'A'.val ∧ c.val ≤ 'Z'.val) := by
    rw [ge_iff_le, UInt32.le_iff_toNat_le, UInt32.le_iff_toNat_le]
    change ¬ (65 ≤ c.toNat ∧ c.toNat ≤ 90)
    omega
  exact dif_neg hupper

/-- What is no letter once it is lowercased was none before. -/
theorem eq_of_toLower_eq {c x : Char} (hx : x.isAlpha = false) (h : c.toLower = x) : c = x := by
  have hascii : ∀ n < 128, (Char.ofNat n).toLower.isAlpha = false → (Char.ofNat n).toLower = Char.ofNat n := by
    decide +kernel
  subst h
  by_cases hc : c.toNat < 128
  · have hkept := hascii c.toNat hc
    rw [Char.ofNat_toNat] at hkept
    exact (hkept hx).symm
  · exact (toLower_of_le (by omega)).symm

/-- A separator stands where it stands in the lowercase text. -/
theorem exists_separator {cs a b : List Char} {x : Char} (hx : x.isAlpha = false)
    (h : cs.map Char.toLower = a ++ x :: b) :
    ∃ a' b', cs = a' ++ x :: b' ∧ a'.map Char.toLower = a ∧ b'.map Char.toLower = b := by
  obtain ⟨a', rest, rfl, ha, hrest⟩ := List.map_eq_append_iff.1 h
  obtain ⟨y, b', rfl, hy, hb⟩ := List.map_eq_cons_iff.1 hrest
  exact ⟨a', b', by rw [eq_of_toLower_eq hx hy], ha, hb⟩

theorem mapM_digitValue?_eq_some_iff (cs : List Char) (ds : List (Fin 16)) :
    cs.mapM digitValue? = some ds ↔ cs.map Char.toLower = ds.map digit := by
  induction cs generalizing ds with
  | nil =>
    rw [List.mapM_nil, List.map_nil, eq_comm (a := []), List.map_eq_nil_iff]
    exact Option.some_inj.trans eq_comm
  | cons c cs ih =>
    rw [List.mapM_cons, List.map_cons]
    constructor
    · intro h
      obtain ⟨d, hd, h⟩ := Option.bind_eq_some_iff.1 h
      obtain ⟨ds', hds, h⟩ := Option.bind_eq_some_iff.1 h
      obtain rfl := Option.some.inj h
      rw [List.map_cons, (digitValue?_eq_some_iff c d).1 hd, (ih ds').1 hds]
    · intro h
      obtain ⟨d, ds', rfl, hd, hds⟩ := List.map_eq_cons_iff.1 h.symm
      rw [(digitValue?_eq_some_iff c d).2 hd.symm, (ih ds').2 hds.symm]
      rfl

theorem ofHex?_eq_some_iff (cs : List Char) (u : Uuid) :
    ofHex? cs = some u ↔ cs.map Char.toLower = u.digits.map digit := by
  rw [← mapM_digitValue?_eq_some_iff, ofHex?, Option.bind_eq_some_iff]
  constructor
  · rintro ⟨ds, hds, hu⟩
    unfold ofDigits? at hu
    split at hu
    · cases hu
      exact hds
    · cases hu
  · exact fun h => ⟨u.digits, h, by rw [ofDigits?, dif_pos u.length_digits]⟩

/-! ## Hyphens -/

theorem map_toLower_hyphenate (cs : List Char) :
    (hyphenate cs).map Char.toLower = hyphenate (cs.map Char.toLower) := by
  simp [hyphenate, List.map_take, List.map_drop]

/-- What is left when the hyphens are dropped gives back the text when they are put in. -/
theorem hyphenate_of_dehyphenate? {cs ds : List Char} (hcs : cs.length = 36) (h : dehyphenate? cs = some ds) :
    cs = hyphenate ds := by
  unfold dehyphenate? at h
  split at h
  next hhyphens =>
    simp only [Bool.and_eq_true, decide_eq_true_eq] at hhyphens
    obtain ⟨⟨⟨h8, h13⟩, h18⟩, h23⟩ := hhyphens
    have hdrop : ∀ {i : Nat}, cs[i]? = some '-' → cs.drop i = '-' :: cs.drop (i + 1) := by
      intro i hi
      obtain ⟨hlt, hget⟩ := List.getElem?_eq_some_iff.1 hi
      rw [List.drop_eq_getElem_cons hlt, hget]
    have hgroup : ∀ i, cs.drop i = (cs.drop i).take 4 ++ cs.drop (i + 4) := by
      intro i
      rw [← List.drop_drop, List.take_append_drop]
    obtain rfl := Option.some.inj h
    simp only [List.append_assoc]
    -- the hyphens join the groups from the last one on
    rw [hyphenate_append _ (by simp [hcs]) (by simp [hcs]) (by simp [hcs]) (by simp [hcs]), ← hdrop h23, ← hgroup 19,
      ← hdrop h18, ← hgroup 14, ← hdrop h13, ← hgroup 9, ← hdrop h8, List.take_append_drop]
  next => cases h

/-- A text that is hyphenated once it is lowercased is hyphenated. -/
theorem exists_hyphenate {cs ds : List Char} (hds : ds.length = 32) (h : cs.map Char.toLower = hyphenate ds) :
    ∃ es : List Char, cs = hyphenate es ∧ es.map Char.toLower = ds := by
  obtain ⟨a, b, c, d, e, rfl, ha, hb, hc, hd, -⟩ := exists_groups hds
  rw [hyphenate_append e ha hb hc hd] at h
  obtain ⟨a', _, rfl, rfl, h1⟩ := exists_separator (by decide) h
  obtain ⟨b', _, rfl, rfl, h2⟩ := exists_separator (by decide) h1
  obtain ⟨c', _, rfl, rfl, h3⟩ := exists_separator (by decide) h2
  obtain ⟨d', e', rfl, rfl, rfl⟩ := exists_separator (by decide) h3
  rw [List.length_map] at ha hb hc hd
  exact ⟨a' ++ (b' ++ (c' ++ (d' ++ e'))), (hyphenate_append e' ha hb hc hd).symm, by simp only [List.map_append]⟩

theorem ofHyphenated?_eq_some_iff (cs : List Char) (u : Uuid) :
    ofHyphenated? cs = some u ↔ cs.map Char.toLower = hyphenate (u.digits.map digit) := by
  unfold ofHyphenated?
  constructor
  · intro h
    split at h
    next hcs =>
      obtain ⟨ds, hds, hu⟩ := Option.bind_eq_some_iff.1 h
      rw [hyphenate_of_dehyphenate? hcs hds, map_toLower_hyphenate, (ofHex?_eq_some_iff ds u).1 hu]
    next => cases h
  · intro h
    obtain ⟨ds, rfl, hu⟩ := exists_hyphenate (by rw [List.length_map, u.length_digits]) h
    have hds : ds.length = 32 := by
      have hlength := congrArg List.length hu
      rwa [List.length_map, List.length_map, u.length_digits] at hlength
    rw [if_pos (length_hyphenate hds), dehyphenate?_hyphenate hds, Option.bind_some, (ofHex?_eq_some_iff ds u).2 hu]

/-! ## What is read -/

theorem unwrap_braced {cs : List Char} (h : cs.length = 36) : unwrap ('{' :: (cs ++ ['}'])) = cs := by
  have hlast : ('{' :: (cs ++ ['}'])).getLast? = some '}' := by rw [← List.cons_append, List.getLast?_concat]
  rw [unwrap, if_pos (by simp [h, hlast]), List.tail_cons, List.dropLast_concat]

theorem unwrap_urn {cs label : List Char} (hlabel : label.map Char.toLower = urnLabel) (h : cs.length = 36) :
    unwrap (label ++ cs) = cs := by
  have hnine : label.length = 9 := by
    rw [← List.length_map (f := Char.toLower), hlabel]
    exact length_urnLabel
  have hlength : (label ++ cs).length = 45 := by rw [List.length_append, hnine, h]
  have htake : ((label ++ cs).take 9).map Char.toLower = "urn:uuid:".toList := by
    rw [← hnine, List.take_left]
    exact hlabel
  have hdrop : (label ++ cs).drop 9 = cs := by rw [← hnine, List.drop_left]
  rw [unwrap, if_neg (by simp [h, hnine]), if_pos, hdrop]
  rw [Bool.and_eq_true, decide_eq_true_eq, decide_eq_true_eq]
  exact ⟨hlength, htake⟩

theorem unwrap_of_length {cs : List Char} (h : cs.length = 36) : unwrap cs = cs := by
  simp [unwrap, h]

/-- What a text is unwrapped from. -/
theorem unwrap_cases (cs : List Char) :
    unwrap cs = cs ∨ cs = '{' :: (unwrap cs ++ ['}']) ∨
      ∃ label, label.map Char.toLower = urnLabel ∧ cs = label ++ unwrap cs := by
  unfold unwrap
  split
  next h =>
    simp only [Bool.and_eq_true, decide_eq_true_eq] at h
    obtain ⟨⟨-, hhead⟩, hlast⟩ := h
    obtain ⟨ds, rfl⟩ := List.head?_eq_some_iff.1 hhead
    obtain ⟨es, hes⟩ := List.getLast?_eq_some_iff.1 hlast
    cases es with
    | nil => cases hes
    | cons c es =>
      have hds : ds = es ++ ['}'] := (List.cons.inj hes).2
      exact .inr (.inl (by rw [List.tail_cons, hds, List.dropLast_concat]))
  next =>
    split
    next h =>
      simp only [Bool.and_eq_true, decide_eq_true_eq] at h
      exact .inr (.inr ⟨cs.take 9, h.2, (List.take_append_drop 9 cs).symm⟩)
    next => exact .inl rfl

/-- Unwrapping leads from all layouts but the bare one to the hyphenated one. -/
theorem map_unwrap_eq_iff {ds : List Char} (hds : ds.length = 32) (cs : List Char) :
    (unwrap cs).map Char.toLower = hyphenate ds ↔
      ∃ layout : Layout, layout ≠ .bare ∧ cs.map Char.toLower = layout.write ds := by
  have hlength : ∀ {es : List Char}, es.map Char.toLower = hyphenate ds → es.length = 36 := by
    intro es hes
    rw [← length_hyphenate hds, ← hes, List.length_map]
  constructor
  · intro h
    rcases unwrap_cases cs with hcs | hcs | ⟨label, hlabel, hcs⟩
    · rw [hcs] at h
      exact ⟨.hyphenated, by decide, h⟩
    · refine ⟨.braced, by decide, ?_⟩
      rw [hcs, List.map_cons, List.map_append, h]
      rfl
    · refine ⟨.urn, by decide, ?_⟩
      rw [hcs, List.map_append, h, hlabel]
      rfl
  · rintro ⟨layout, hne, h⟩
    cases layout with
    | bare => exact absurd rfl hne
    | hyphenated => rwa [unwrap_of_length (hlength h)]
    | braced =>
      obtain ⟨a, rest, rfl, ha, hrest⟩ := exists_separator (a := []) (by decide) h
      obtain ⟨es, b, rfl, hes, hb⟩ := exists_separator (by decide) hrest
      obtain rfl := List.map_eq_nil_iff.1 ha
      obtain rfl := List.map_eq_nil_iff.1 hb
      rwa [List.nil_append, unwrap_braced (hlength hes)]
    | urn =>
      obtain ⟨label, es, rfl, hlabel, hes⟩ := List.map_eq_append_iff.1 h
      rwa [unwrap_urn hlabel (hlength hes)]

/-- The bare layout is the only one of thirty-two characters. -/
theorem length_write_eq_iff {ds : List Char} (hds : ds.length = 32) (layout : Layout) :
    (layout.write ds).length = 32 ↔ layout = .bare := by
  cases layout <;> simp [Layout.write, length_urnLabel, length_hyphenate, hds]

theorem toLower_eq_textIn_iff (s : String) (u : Uuid) (layout : Layout) :
    s.toLower = u.textIn layout ↔ s.toList.map Char.toLower = layout.write (u.digits.map digit) := by
  have hlower : s.toLower.toList = s.toList.map Char.toLower := String.toList_map
  rw [textIn, map_digit, ← String.toList_inj, hlower, String.toList_ofList]

/-- **What is read as a UUID**: its text in one of the four layouts, in either case. -/
theorem parse?_eq_some_iff (s : String) (u : Uuid) : parse? s = some u ↔ ∃ layout, s.toLower = u.textIn layout := by
  have hds : (u.digits.map digit).length = 32 := by rw [List.length_map, u.length_digits]
  simp only [toLower_eq_textIn_iff, parse?]
  by_cases hs : s.toList.length = 32
  · rw [if_pos hs, ofHex?_eq_some_iff]
    constructor
    · exact fun h => ⟨.bare, h⟩
    · rintro ⟨layout, h⟩
      obtain rfl : layout = .bare := (length_write_eq_iff hds layout).1 (by rw [← h, List.length_map, hs])
      exact h
  · rw [if_neg hs, ofHyphenated?_eq_some_iff, map_unwrap_eq_iff hds]
    constructor
    · rintro ⟨layout, -, h⟩
      exact ⟨layout, h⟩
    · rintro ⟨layout, h⟩
      refine ⟨layout, ?_, h⟩
      rintro rfl
      exact hs (by rw [← List.length_map (f := Char.toLower), h]; exact hds)

end Uuid

/-! ## Public ids -/

/-- **The pattern, the reader and the printer of public ids agree.** A text has the canonical pattern exactly if it is
the lowercase hyphenated text of a UUID of version 4 with the RFC variant; such a text is read as that UUID and printed
again. Whatever its version, a UUID is read from the text that is printed for it, and beside that from its text in any
layout and case. Of the texts that are read as a UUID, the canonical one is the only one with the pattern, and it has
the pattern only for version 4. -/
theorem publicIdText_exact (s : String) :
    (isCanonicalV4 s = true ↔ ∃ u : Uuid, u.version = 4 ∧ u.variant = 0b10 ∧ s = u.textIn .hyphenated) ∧
      (∀ u : Uuid, u.version = 4 → u.variant = 0b10 → s = u.textIn .hyphenated →
        parsePublicId s = .ok u ∧ (ExternalId.publicId u).text = s) ∧
      (∀ u : Uuid, parsePublicId (ExternalId.publicId u).text = .ok u) ∧
      (∀ u : Uuid, parsePublicId s = .ok u ↔ ∃ layout, s.toLower = u.textIn layout) ∧
      (∀ u : Uuid, parsePublicId s = .ok u →
        (isCanonicalV4 s = true ↔ u.version = 4 ∧ u.variant = 0b10 ∧ s = u.textIn .hyphenated)) := by
  have hcanonical : isCanonicalV4 s = true ↔
      ∃ u : Uuid, u.version = 4 ∧ u.variant = 0b10 ∧ s = u.textIn .hyphenated := by
    simp only [isCanonicalV4_iff, Uuid.isV4_iff, Uuid.toText_eq, and_assoc]
  have hread : ∀ u : Uuid, parsePublicId (ExternalId.publicId u).text = .ok u := parsePublicId_toText
  have hprinted (u : Uuid) (hs : s = u.textIn .hyphenated) :
      parsePublicId s = .ok u ∧ (ExternalId.publicId u).text = s := by
    have htext : (ExternalId.publicId u).text = s := u.toText_eq.trans hs.symm
    exact ⟨htext ▸ hread u, htext⟩
  refine ⟨hcanonical, fun u _ _ hs => hprinted u hs, hread, fun u => ?_, fun u hu => ?_⟩
  · rw [parsePublicId_eq_ok_iff, Uuid.parse?_eq_some_iff]
  · rw [hcanonical]
    constructor
    · rintro ⟨v, hversion, hvariant, hs⟩
      obtain rfl : v = u := Except.ok.inj ((hprinted v hs).1.symm.trans hu)
      exact ⟨hversion, hvariant, hs⟩
    · exact fun h => ⟨u, h⟩

/-- Of version 4, but in capitals and as a URN. -/
example : isCanonicalV4 "URN:UUID:00000000-0000-4000-8000-00000000000A" = false ∧
    (Uuid.parse? "URN:UUID:00000000-0000-4000-8000-00000000000A").map Uuid.toText =
      some "00000000-0000-4000-8000-00000000000a" := by
  decide +kernel

end RowIdentity
