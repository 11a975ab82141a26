import RowIdentity.Text.Lowercase

/-!
# A lowercase text is its own lowercase

* `Lowercase.Settled c` — `c` is its own lowercase, by itself and in a text;
* `CaseTable.misses_of_mem` — no run of the table covers what a run leads to;
* `Lowercase.settled_of_mem_ofChar` — the lowercase of a character is settled;
* `Lowercase.ofText_ofText` — **to lower a text twice is to lower it once**.
-/

namespace RowIdentity

namespace CaseTable

/-- Where a run leads to. In an image that alternates all places are of one parity. -/
structure Image where
  first : Nat
  last : Nat
  alternates : Bool

def Run.image (r : Run) : Image :=
  ⟨(r.first + r.shift).toNat, (r.last + r.shift).toNat, Nat.beq r.first r.last || Nat.beq r.step 2⟩

/-- The image lies before the characters that a run covers, or behind them, or takes the places between them. -/
def Image.misses (i : Image) (r : Run) : Bool :=
  Nat.blt i.last r.first || Nat.blt r.last i.first ||
    i.alternates && Nat.beq r.step 2 && Nat.beq ((i.first + r.first) % 2) 1

theorem images_miss : (lowercaseRuns.map Run.image).all (fun i => lowercaseRuns.all i.misses) = true := by
  decide +kernel

/-- **No run covers what a run leads to.** -/
theorem misses_of_mem {r r' : Run} (hr : r ∈ lowercaseRuns) (hr' : r' ∈ lowercaseRuns) :
    r.image.last < r'.first ∨ r'.last < r.image.first ∨
      (r.first = r.last ∨ r.step = 2) ∧ r'.step = 2 ∧ (r.image.first + r'.first) % 2 = 1 := by
  have hall := List.all_eq_true.1 (List.all_eq_true.1 images_miss r.image (List.mem_map_of_mem hr)) r' hr'
  simpa [Image.misses, Run.image, or_assoc, and_assoc] using hall

/-- A run leads to characters, but to no capital letter of ASCII and not to `İ`. -/
theorem image_of_mem : ∀ r ∈ lowercaseRuns, 0 ≤ r.first + r.shift ∧
    (90 < r.image.first ∨ r.image.last < 65) ∧ (304 < r.image.first ∨ r.image.last < 304) := by
  decide +kernel

end CaseTable

namespace Lowercase

open CaseTable

/-! ## Characters -/

/-- The character is its own lowercase, by itself and in a text. -/
structure Settled (c : Char) : Prop where
  lower : ofChar c = [c]
  ne_sigma : c ≠ 'Σ'

instance (c : Char) : Decidable (Settled c) :=
  decidable_of_iff (ofChar c = [c] ∧ c ≠ 'Σ') ⟨fun h => ⟨h.1, h.2⟩, fun h => ⟨h.1, h.2⟩⟩

theorem covers_iff (c : Char) (r : Run) :
    covers c r = true ↔ r.first ≤ c.toNat ∧ c.toNat ≤ r.last ∧ (c.toNat - r.first) % r.step = 0 := by
  simp [covers, and_assoc]

theorem settled_lower_ascii : ∀ n < 128, Settled (Char.ofNat n).toLower := by
  decide +kernel

theorem settled_of_lt {c : Char} (hc : c.toNat < 128) : Settled c.toLower := by
  have h := settled_lower_ascii c.toNat hc
  rwa [Char.ofNat_toNat] at h

/-- A character that the table leaves alone is settled. -/
theorem settled_of_not_covered {c : Char} (hcapital : 90 < c.toNat ∨ c.toNat < 65) (hdot : c.toNat ≠ 304)
    (hruns : ∀ r ∈ lowercaseRuns, covers c r = false) : Settled c where
  lower := by
    unfold ofChar
    split
    next =>
      have hupper : ¬ (c.val ≥ 'A'.val ∧ c.val ≤ 'Z'.val) := by
        rw [ge_iff_le, UInt32.le_iff_toNat_le, UInt32.le_iff_toNat_le]
        change ¬ (65 ≤ c.toNat ∧ c.toNat ≤ 90)
        omega
      have hkept : c.toLower = c := dif_neg hupper
      rw [hkept]
    next =>
      have hne : c ≠ 'İ' := by
        rintro rfl
        exact hdot rfl
      have hnone : lowercaseRuns.find? (covers c) = none := by
        rw [List.find?_eq_none]
        exact fun r hr => by simp [hruns r hr]
      rw [if_neg hne, hnone]
  ne_sigma := by
    rintro rfl
    have hsigma : lowercaseRuns.any (covers 'Σ') = true := by decide +kernel
    obtain ⟨r, hr, hcovers⟩ := List.any_eq_true.1 hsigma
    rw [hruns r hr] at hcovers
    cases hcovers

/-- Where a run leads to is covered by none. -/
theorem settled_of_covers {c : Char} {r : Run} (hr : r ∈ lowercaseRuns) (hc : covers c r = true) :
    Settled (Char.ofNat (c.toNat + r.shift).toNat) := by
  obtain ⟨hfirst, hlast, hstep⟩ := (covers_iff c r).1 hc
  by_cases hvalid : (c.toNat + r.shift).toNat.isValidChar
  · have hto : (Char.ofNat (c.toNat + r.shift).toNat).toNat = (c.toNat + r.shift).toNat := by
      rw [Char.ofNat, dif_pos hvalid]
      rfl
    obtain ⟨hstart, hcapital, hdot⟩ := image_of_mem r hr
    have himage : r.image.first = (r.first + r.shift).toNat ∧ r.image.last = (r.last + r.shift).toNat := ⟨rfl, rfl⟩
    refine settled_of_not_covered (by omega) (by omega) fun r' hr' => ?_
    rw [← Bool.not_eq_true, covers_iff, hto]
    rintro ⟨hfirst', hlast', hstep'⟩
    rcases misses_of_mem hr hr' with hbefore | hbehind | ⟨hsingle, htwo, hodd⟩
    · omega
    · omega
    · rw [htwo] at hstep'
      rcases hsingle with hsingle | hsingle
      · omega
      · rw [hsingle] at hstep
        omega
  · rw [Char.ofNat, dif_neg hvalid]
    decide

/-- **The lowercase of a character is settled.** -/
theorem settled_of_mem_ofChar {c c' : Char} (h : c' ∈ ofChar c) : Settled c' := by
  unfold ofChar at h
  split at h
  next hascii =>
    obtain rfl := List.mem_singleton.1 h
    exact settled_of_lt hascii
  next hascii =>
    split at h
    next =>
      obtain rfl | rfl : c' = 'i' ∨ c' = '\u0307' := by simpa using h
      · decide
      · decide +kernel
    next hdot =>
      split at h
      next r hr =>
        obtain rfl := List.mem_singleton.1 h
        exact settled_of_covers (List.mem_of_find?_eq_some hr) (List.find?_some hr)
      next hnone =>
        obtain rfl := List.mem_singleton.1 h
        refine settled_of_not_covered (by omega) (fun hc => hdot (Char.ext ?_)) fun r hr => ?_
        · exact UInt32.toNat_inj.1 hc
        · simpa using List.find?_eq_none.1 hnone r hr

/-! ## Texts -/

theorem settled_of_mem_go {before cs : List Char} {c : Char} (h : c ∈ go before cs) : Settled c := by
  induction cs generalizing before with
  | nil => cases h
  | cons c' cs ih =>
    rw [go] at h
    rcases List.mem_append.1 h with h | h
    · split at h
      next =>
        obtain rfl := List.mem_singleton.1 h
        split
        · decide +kernel
        · decide +kernel
      next => exact settled_of_mem_ofChar h
    · exact ih h

theorem go_of_settled {before cs : List Char} (h : ∀ c ∈ cs, Settled c) : go before cs = cs := by
  induction cs generalizing before with
  | nil => rfl
  | cons c cs ih =>
    obtain ⟨hc, hcs⟩ := List.forall_mem_cons.1 h
    rw [go, if_neg hc.ne_sigma, hc.lower, ih hcs, List.singleton_append]

/-- **To lower a text twice is to lower it once.** -/
theorem ofText_ofText (s : String) : ofText (ofText s) = ofText s := by
  simp only [ofText, String.toList_ofList]
  rw [go_of_settled fun c => settled_of_mem_go]

end Lowercase

end RowIdentity
