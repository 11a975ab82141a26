import RowIdentity.Proofs.Assoc
import RowIdentity.Uuid

/-!
# UUIDs and their texts

* `Hexadecimal.digitValue?_eq_some_iff` — a hexadecimal digit is read in either case;
* `Uuid.parse?_toText` — the hyphenated text of a UUID is read back;
* `isCanonicalV4_iff` — the canonical texts are the texts of the UUIDs of version 4;
* `Uuid.hyphen_mem_toText` — every such text holds a hyphen, which sets it apart from numbers and from base64.
-/

namespace RowIdentity

open Hexadecimal

/-! ## Hexadecimal digits -/

theorem Hexadecimal.digit_injective : Function.Injective digit := fun d e => by
  revert d e
  decide

theorem Hexadecimal.toLower_digit : ∀ d : Fin 16, (digit d).toLower = digit d := by decide

/-- The digit that is read is the one whose lowercase character it is. -/
theorem Hexadecimal.digitValue?_eq_some_iff (c : Char) (d : Fin 16) : digitValue? c = some d ↔ c.toLower = digit d := by
  have hdigits : ((List.finRange 16).map digit).Nodup := (List.nodup_finRange 16).map digit_injective
  rw [digitValue?, Assoc.find?_key_eq_some_iff digit hdigits]
  constructor
  · rintro ⟨-, h⟩
    exact h.symm
  · intro h
    exact ⟨List.mem_finRange d, h.symm⟩

theorem Hexadecimal.isLowerHex_digit : ∀ d : Fin 16, isLowerHex (digit d) = true := by decide

/-- The digits of the RFC variant. -/
theorem isVariant_iff (c : Char) : ['8', '9', 'a', 'b'].contains c = true ↔
    ∃ v : Fin 16, c = digit v ∧ 8 ≤ v.val ∧ v.val ≤ 11 := by
  constructor
  · intro h
    simp only [List.contains_iff_mem, List.mem_cons, List.not_mem_nil, or_false] at h
    rcases h with rfl | rfl | rfl | rfl
    exacts [⟨8, by decide⟩, ⟨9, by decide⟩, ⟨10, by decide⟩, ⟨11, by decide⟩]
  · rintro ⟨v, rfl, h1, h2⟩
    revert v
    decide

theorem Hexadecimal.exists_digit {c : Char} (h : isLowerHex c = true) : ∃ d : Fin 16, digit d = c := by
  have key : ∀ n < 128, isLowerHex (Char.ofNat n) = true → ∃ d : Fin 16, digit d = Char.ofNat n := by
    decide
  have hlt : c.toNat < 128 := by
    simp only [isLowerHex, Bool.or_eq_true, Bool.and_eq_true, decide_eq_true_eq, Char.le_def,
      UInt32.le_iff_toNat_le] at h
    rcases h with ⟨-, h⟩ | ⟨-, h⟩
    · exact Nat.lt_of_le_of_lt h (by decide)
    · exact Nat.lt_of_le_of_lt h (by decide)
  simpa using key c.toNat hlt (by simpa using h)

/-! ## Patterns -/

theorem matchesAll_append (ps qs : List (Char → Bool)) (cs : List Char) :
    matchesAll (ps ++ qs) cs = true ↔
      ∃ as bs, cs = as ++ bs ∧ matchesAll ps as = true ∧ matchesAll qs bs = true := by
  induction ps generalizing cs with
  | nil =>
    constructor
    · exact fun h => ⟨[], cs, rfl, rfl, h⟩
    · rintro ⟨as, bs, rfl, h, h'⟩
      cases as with
      | nil => exact h'
      | cons a as => simp [matchesAll] at h
  | cons p ps ih =>
    cases cs with
    | nil =>
      simp only [List.cons_append, matchesAll, Bool.false_eq_true, false_iff]
      rintro ⟨as, bs, h, h', -⟩
      obtain ⟨rfl, rfl⟩ := List.nil_eq_append_iff.1 h
      simp [matchesAll] at h'
    | cons c cs =>
      simp only [List.cons_append, matchesAll, Bool.and_eq_true, ih]
      constructor
      · rintro ⟨hc, as, bs, rfl, h1, h2⟩
        exact ⟨c :: as, bs, rfl, by simp [matchesAll, hc, h1], h2⟩
      · rintro ⟨as, bs, h, h1, h2⟩
        cases as with
        | nil => simp [matchesAll] at h1
        | cons a as =>
          obtain ⟨rfl, rfl⟩ := List.cons.inj h
          simp only [matchesAll, Bool.and_eq_true] at h1
          exact ⟨h1.1, as, bs, rfl, h1.2, h2⟩

theorem matchesAll_cons (p : Char → Bool) (ps : List (Char → Bool)) (cs : List Char) :
    matchesAll (p :: ps) cs = true ↔ ∃ c rest, cs = c :: rest ∧ p c = true ∧ matchesAll ps rest = true := by
  cases cs <;> simp [matchesAll]

/-- A run of lowercase hexadecimal characters is written by a list of digits. -/
theorem matchesAll_lowerHex (n : Nat) (cs : List Char) :
    matchesAll (List.replicate n isLowerHex) cs = true ↔
      ∃ ds : List (Fin 16), cs = ds.map digit ∧ ds.length = n := by
  induction n generalizing cs with
  | zero =>
    constructor
    · intro h
      cases cs with
      | nil => exact ⟨[], rfl, rfl⟩
      | cons c cs => simp [matchesAll] at h
    · rintro ⟨ds, rfl, h⟩
      rw [List.length_eq_zero_iff.1 h]
      rfl
  | succ n ih =>
    rw [List.replicate_succ, matchesAll_cons]
    constructor
    · rintro ⟨c, rest, rfl, hc, h⟩
      obtain ⟨d, rfl⟩ := exists_digit hc
      obtain ⟨ds, rfl, hds⟩ := (ih rest).1 h
      exact ⟨d :: ds, rfl, by simp [hds]⟩
    · rintro ⟨ds, rfl, h⟩
      obtain ⟨d, ds, rfl⟩ := List.exists_cons_of_length_eq_add_one h
      exact ⟨_, _, rfl, isLowerHex_digit d, (ih _).2 ⟨ds, rfl, by simpa using h⟩⟩

namespace Uuid

/-! ## Groups of characters -/

/-- Thirty-two things fall into groups of 8, 4, 4, 4 and 12. -/
theorem exists_groups {α : Type} {l : List α} (h : l.length = 32) :
    ∃ a b c d e : List α, l = a ++ (b ++ (c ++ (d ++ e))) ∧
      a.length = 8 ∧ b.length = 4 ∧ c.length = 4 ∧ d.length = 4 ∧ e.length = 12 := by
  refine ⟨l.take 8, (l.drop 8).take 4, (l.drop 12).take 4, (l.drop 16).take 4, l.drop 20, ?_, ?_⟩
  · rw [← List.drop_drop (i := 4) (j := 16), List.take_append_drop, ← List.drop_drop (i := 4) (j := 12),
      List.take_append_drop, ← List.drop_drop (i := 4) (j := 8), List.take_append_drop, List.take_append_drop]
  · simp [h]

/-- Hyphens stand behind the first 8, 4, 4 and 4 characters. -/
theorem hyphenate_append {a b c d : List Char} (e : List Char) (ha : a.length = 8) (hb : b.length = 4)
    (hc : c.length = 4) (hd : d.length = 4) :
    hyphenate (a ++ (b ++ (c ++ (d ++ e)))) = a ++ '-' :: (b ++ '-' :: (c ++ '-' :: (d ++ '-' :: e))) := by
  simp (disch := omega) [hyphenate, List.drop_append, List.drop_of_length_le, ha, hb, hc]

theorem length_hyphenate {cs : List Char} (h : cs.length = 32) : (hyphenate cs).length = 36 := by
  simp [hyphenate, h]

theorem dehyphenate?_hyphenate {cs : List Char} (h : cs.length = 32) :
    dehyphenate? (hyphenate cs) = some cs := by
  obtain ⟨a, b, c, d, e, rfl, ha, hb, hc, hd, -⟩ := exists_groups h
  rw [hyphenate_append e ha hb hc hd, dehyphenate?, if_pos]
  · simp (disch := omega) [List.drop_append, List.drop_of_length_le, ha, hb, hc, hd]
  · simp (disch := omega) only [List.getElem?_append_right, List.getElem?_cons, ha, hb, hc, hd]
    simp

/-! ## Reading what was written -/

theorem ofHex?_map (u : Uuid) : ofHex? (u.digits.map digit) = some u := by
  have key : ∀ ds : List (Fin 16), (ds.map digit).mapM digitValue? = some ds := by
    intro ds
    induction ds with
    | nil => rfl
    | cons d ds ih => simp [List.mapM_cons, (digitValue?_eq_some_iff _ d).2 (toLower_digit d), ih]
  rw [ofHex?, key, Option.bind_some, ofDigits?, dif_pos u.length_digits]

theorem length_toChars (u : Uuid) : u.toChars.length = 36 :=
  length_hyphenate (by simp [u.length_digits])

@[simp] theorem toList_toText (u : Uuid) : u.toText.toList = u.toChars := by
  simp [toText]

/-- **Round trip.** The hyphenated text of a UUID, of any version, is read back. -/
theorem parse?_toText (u : Uuid) : parse? u.toText = some u := by
  have hlen := length_toChars u
  have hwrap : unwrap u.toChars = u.toChars := by simp [unwrap, hlen]
  have hds : (u.digits.map digit).length = 32 := by simp [u.length_digits]
  unfold parse?
  rw [toList_toText, if_neg (by omega), hwrap, ofHyphenated?, if_pos hlen]
  unfold toChars
  rw [dehyphenate?_hyphenate hds, Option.bind_some, ofHex?_map]

theorem toText_inj {u v : Uuid} (h : u.toText = v.toText) : u = v :=
  Option.some.inj ((parse?_toText u).symm.trans ((congrArg parse? h).trans (parse?_toText v)))

theorem hyphen_mem_toText (u : Uuid) : '-' ∈ u.toText.toList := by
  simp [toChars, hyphenate]

end Uuid

/-! ## Canonical texts -/

/-- **The canonical texts** are the texts of the UUIDs of version 4. -/
theorem isCanonicalV4_iff (s : String) : isCanonicalV4 s = true ↔ ∃ u : Uuid, u.IsV4 ∧ s = u.toText := by
  simp only [isCanonicalV4, canonicalV4, matchesAll_append, matchesAll_cons, matchesAll_lowerHex, beq_iff_eq,
    isVariant_iff]
  constructor
  · rintro ⟨_, _, hs, ⟨a, rfl, ha⟩, _, _, rfl, rfl, _, _, rfl, ⟨b, rfl, hb⟩, _, _, rfl, rfl, _, _, rfl, rfl,
      _, _, rfl, ⟨c, rfl, hc⟩, _, _, rfl, rfl, _, _, rfl, ⟨v, rfl, hv⟩, _, _, rfl, ⟨d, rfl, hd⟩, _, _, rfl, rfl,
      e, rfl, he⟩
    have four : '4' = digit 4 := by decide
    refine ⟨⟨a ++ (b ++ (4 :: c ++ (v :: d ++ e))), by simp; omega⟩, ⟨?_, ?_⟩, ?_⟩
    · simp [List.getElem?_append_right, ha, hb]
    · simp [List.getElem?_append_right, ha, hb, hc, hv]
    · rw [← String.toList_inj, hs, Uuid.toList_toText, Uuid.toChars]
      simp only [List.map_append]
      rw [Uuid.hyphenate_append _ (by simpa) (by simpa) (by simpa) (by simpa)]
      simp
      exact four
  · rintro ⟨u, ⟨h4, hvar⟩, rfl⟩
    obtain ⟨a, b, c, d, e, hu, ha, hb, hc, hd, he⟩ := Uuid.exists_groups u.length_digits
    obtain ⟨four, c, rfl⟩ := List.exists_cons_of_length_eq_add_one hc
    obtain ⟨v, d, rfl⟩ := List.exists_cons_of_length_eq_add_one hd
    have hc : c.length = 3 := by simpa using hc
    have hd : d.length = 3 := by simpa using hd
    have hfour : four = 4 := by simpa [hu, List.getElem?_append_right, ha, hb] using h4
    have hv : 8 ≤ v.val ∧ v.val ≤ 11 := by
      simpa [hu, List.getElem?_append_right, ha, hb, hc] using hvar
    rw [Uuid.toList_toText, Uuid.toChars, hu]
    simp only [List.map_append]
    rw [Uuid.hyphenate_append _ (by simpa) (by simpa) (by simp [hc]) (by simp [hd])]
    exact ⟨_, _, rfl, ⟨a, rfl, ha⟩, _, _, rfl, rfl, _, _, rfl, ⟨b, rfl, hb⟩, _, _, rfl, rfl, _, _, rfl,
      hfour ▸ by decide, _, _, rfl, ⟨c, rfl, hc⟩, _, _, rfl, rfl, _, _, rfl, ⟨v, rfl, hv⟩, _, _, rfl, ⟨d, rfl, hd⟩,
      _, _, rfl, rfl, e, rfl, he⟩

end RowIdentity
