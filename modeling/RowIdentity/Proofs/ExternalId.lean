import RowIdentity.ExternalId
import RowIdentity.Proofs.Text.Bytes
import RowIdentity.Proofs.Text.Decimal
import RowIdentity.Proofs.Uuid

/-!
# The shapes of external ids

* `IdShape`, `HasShape` — the three shapes: a canonical UUID, a number, and a legacy global id of some key;
* `parseKey_eq_ok_iff`, `parseKey_text_of_nonneg` — keys as numerals;
* `decodeGlobalId_eq_ok_iff` — a legacy global id is base64 of a type name without a colon, a colon and an id;
* `HasShape.unique` — no text has two shapes;
* `not_isNumeric_encodeGlobalId` — a written legacy id is not a number, whatever its type name.

A number could be base64 of something, and even of something with a colon in it. But then the byte before the
last one is above the colon, while a legacy id ends in a colon and digits.
-/

namespace RowIdentity

/-- The three shapes in which an id reaches the program. -/
inductive IdShape where
  | canonical
  | numeric
  | legacy
deriving DecidableEq, Repr

/-- A text of a shape. A legacy global id holds a key behind the type name. -/
def HasShape (s : String) : IdShape → Prop
  | .canonical => isCanonicalV4 s = true
  | .numeric => isNumeric s = true
  | .legacy => ∃ typeName id pk, decodeGlobalId s = .ok (typeName, id) ∧ parseKey id = .ok pk

/-! ## Public ids -/

theorem parsePublicId_eq_ok_iff (s : String) (u : Uuid) : parsePublicId s = .ok u ↔ Uuid.parse? s = some u := by
  unfold parsePublicId
  cases Uuid.parse? s <;> simp

theorem parsePublicId_toText (u : Uuid) : parsePublicId u.toText = .ok u :=
  (parsePublicId_eq_ok_iff _ u).2 u.parse?_toText

/-! ## Keys -/

theorem isNumeric_iff (s : String) : isNumeric s = true ↔ s.toList ≠ [] ∧ ∀ c ∈ s.toList, c.isDigit = true :=
  Decimal.isNumeral_iff _

theorem toInt_ofNat_of_le {n : Nat} (h : n ≤ Int64.maxValue.toInt.toNat) : (Int64.ofNat n).toInt = n := by
  have hmax : Int64.maxValue.toInt.toNat = 2 ^ 63 - 1 := by decide
  exact Int64.toInt_ofNat_of_lt (by omega)

/-- A key is read from its digits, as long as they stand for no more than 64 bits. -/
theorem parseKey_eq_ok_iff (s : String) (pk : Int64) :
    parseKey s = .ok pk ↔ isNumeric s = true ∧ (Decimal.value s.toList : Int) = pk.toInt := by
  unfold parseKey
  by_cases hs : isNumeric s = true
  · by_cases hn : Decimal.value s.toList ≤ Int64.maxValue.toInt.toNat
    · simp only [hs, hn, Bool.not_true, Bool.false_eq_true, if_false, if_true, Except.ok.injEq, true_and]
      rw [← Int64.toInt_inj, toInt_ofNat_of_le hn]
    · have hpk : pk.toInt ≤ Int64.maxValue.toInt := pk.toInt_le
      simp only [hs, hn, Bool.not_true, Bool.false_eq_true, if_false, reduceCtorEq, true_and, false_iff]
      omega
  · simp [hs]

theorem isNumeric_text_iff (pk : Int64) : isNumeric (Decimal.text pk.toInt) = true ↔ 0 ≤ pk := by
  rw [isNumeric, Decimal.toList_text, Decimal.isNumeral_ofInt_iff, Int64.le_iff_toInt_le]
  rfl

theorem parseKey_text_of_nonneg {pk : Int64} (h : 0 ≤ pk) : parseKey (Decimal.text pk.toInt) = .ok pk := by
  have hpos : 0 ≤ pk.toInt := Int64.le_iff_toInt_le.1 h
  rw [parseKey_eq_ok_iff]
  refine ⟨(isNumeric_text_iff pk).2 h, ?_⟩
  obtain ⟨n, hn⟩ := Int.eq_ofNat_of_zero_le hpos
  rw [Decimal.toList_text, hn]
  exact congrArg Int.ofNat (Decimal.value_ofNat n)

theorem toList_text_of_neg {pk : Int64} (h : ¬ 0 ≤ pk) : ∃ cs, (Decimal.text pk.toInt).toList = '-' :: cs := by
  have hneg : pk.toInt < 0 := by
    rw [Int64.le_iff_toInt_le] at h
    exact Int.not_le.1 h
  obtain ⟨n, hn⟩ := Int.eq_negSucc_of_lt_zero hneg
  rw [Decimal.toList_text, hn]
  exact ⟨_, rfl⟩

theorem isNumeric_of_parseKey {s : String} {pk : Int64} (h : parseKey s = .ok pk) : isNumeric s = true :=
  ((parseKey_eq_ok_iff s pk).1 h).1

/-! ## Splitting at the first colon -/

theorem splitOnce_cons (c x : Char) (cs : List Char) :
    splitOnce c (x :: cs) = if x = c then some ([], cs) else (splitOnce c cs).map fun p => (x :: p.1, p.2) := by
  by_cases hx : x = c
  · simp [splitOnce, hx]
  · by_cases hc : cs.contains c = true
    · simp_all [splitOnce]
    · simp_all [splitOnce, eq_comm]

/-- The first part holds no separator. -/
theorem splitOnce_eq_some_iff (c : Char) (cs a b : List Char) :
    splitOnce c cs = some (a, b) ↔ cs = a ++ c :: b ∧ c ∉ a := by
  induction cs generalizing a b with
  | nil => simp [splitOnce]
  | cons x cs ih =>
    rw [splitOnce_cons]
    split
    next hx =>
      subst hx
      cases a with
      | nil => simp
      | cons y a => simp; grind
    next hx =>
      simp only [Option.map_eq_some_iff, Prod.exists, Prod.mk.injEq, ih]
      constructor
      · rintro ⟨a', b', ⟨rfl, ha'⟩, rfl, rfl⟩
        exact ⟨rfl, by simp [ha', Ne.symm hx]⟩
      · rintro ⟨h, ha⟩
        cases a with
        | nil => exact absurd (List.cons.inj h).1 hx
        | cons y a =>
          obtain ⟨rfl, rfl⟩ := List.cons.inj h
          exact ⟨a, b, ⟨rfl, fun h => ha (List.mem_cons_of_mem _ h)⟩, rfl, rfl⟩

/-! ## Legacy global ids -/

theorem isEmpty_toList (s : String) : s.toList.isEmpty = true ↔ s = "" := by
  rw [List.isEmpty_iff, ← String.toList_inj]
  simp

theorem toList_typed (typeName id : String) :
    (typeName ++ ":" ++ id).toList = typeName.toList ++ ':' :: id.toList := by
  simp [String.toList_append]

/-- A legacy global id is base64 of a type name, a colon and an id; no part is empty, and the type name holds
no colon. -/
theorem decodeGlobalId_eq_ok_iff (s typeName id : String) :
    decodeGlobalId s = .ok (typeName, id) ↔
      Base64.decode? s.toList = some (Utf8.encode (typeName ++ ":" ++ id)) ∧
        typeName ≠ "" ∧ ':' ∉ typeName.toList ∧ id ≠ "" := by
  unfold decodeGlobalId
  constructor
  · intro h
    split at h
    · cases h
    next bytes hb =>
      split at h
      · cases h
      next text ht =>
        split at h
        next tn i hs =>
          split at h
          · cases h
          next hne =>
            obtain ⟨rfl, rfl⟩ := Prod.mk.inj (Except.ok.inj h)
            obtain ⟨hl, hc⟩ := (splitOnce_eq_some_iff _ _ _ _).1 hs
            have htext : text = String.ofList tn ++ ":" ++ String.ofList i := by
              rw [← String.toList_inj, toList_typed, hl]
              simp
            rw [hb, ← Utf8.encode_of_decode? ht, htext]
            have hempty : ∀ l, String.ofList l = "" → l.isEmpty = true := by
              intro l h
              simpa using (isEmpty_toList _).2 h
            exact ⟨rfl, fun h => hne (by simp [hempty _ h]), by simpa using hc, fun h => hne (by simp [hempty _ h])⟩
        · cases h
  · rintro ⟨hb, hne, hc, hid⟩
    have hs := (splitOnce_eq_some_iff ':' (typeName ++ ":" ++ id).toList typeName.toList id.toList).2
      ⟨toList_typed typeName id, hc⟩
    simp only [hb, Utf8.decode?_encode, hs]
    rw [if_neg]
    · simp
    · simp only [Bool.or_eq_true, isEmpty_toList]
      rintro (h | h)
      exacts [hne h, hid h]

/-- Every other text is refused as malformed. -/
theorem decodeGlobalId_error {s : String} {e : IdError} (h : decodeGlobalId s = .error e) :
    ∃ reason, e = .invalidFormat s reason := by
  unfold decodeGlobalId at h
  split at h
  · exact ⟨_, (Except.error.inj h).symm⟩
  · split at h
    · exact ⟨_, (Except.error.inj h).symm⟩
    · split at h
      · split at h
        · exact ⟨_, (Except.error.inj h).symm⟩
        · cases h
      · exact ⟨_, (Except.error.inj h).symm⟩

theorem decode?_encodeGlobalId (typeName id : String) :
    Base64.decode? (encodeGlobalId typeName id).toList = some (Utf8.encode (typeName ++ ":" ++ id)) := by
  simp [encodeGlobalId, Base64.decode?_encode]

/-- What was written is read back, split at the first colon. -/
theorem decodeGlobalId_encodeGlobalId_iff (typeName id t i : String) :
    decodeGlobalId (encodeGlobalId typeName id) = .ok (t, i) ↔
      typeName ++ ":" ++ id = t ++ ":" ++ i ∧ t ≠ "" ∧ ':' ∉ t.toList ∧ i ≠ "" := by
  rw [decodeGlobalId_eq_ok_iff, decode?_encodeGlobalId, Option.some.injEq]
  exact and_congr_left fun _ => Utf8.encode_injective.eq_iff

/-! ## No text has two shapes -/

theorem not_isNumeric_of_hyphen {s : String} (h : '-' ∈ s.toList) : isNumeric s = false := by
  rw [Bool.eq_false_iff]
  intro hs
  have := ((isNumeric_iff s).1 hs).2 _ h
  revert this
  decide

theorem decode?_of_hyphen {cs : List Char} (h : '-' ∈ cs) : Base64.decode? cs = none := by
  rw [Option.eq_none_iff_forall_ne_some]
  intro bytes hb
  have := Base64.mem_of_decode? hb _ h
  revert this
  decide

theorem decodeGlobalId_of_hyphen {s : String} (h : '-' ∈ s.toList) :
    decodeGlobalId s = .error (.invalidFormat s "not a base64 global id") := by
  simp [decodeGlobalId, decode?_of_hyphen h]

theorem hyphen_mem_of_isCanonicalV4 {s : String} (h : isCanonicalV4 s = true) : '-' ∈ s.toList := by
  obtain ⟨u, -, rfl⟩ := (isCanonicalV4_iff s).1 h
  exact u.hyphen_mem_toText

theorem not_isCanonicalV4_of_isNumeric {s : String} (h : isNumeric s = true) : isCanonicalV4 s = false := by
  rw [Bool.eq_false_iff]
  intro hc
  rw [not_isNumeric_of_hyphen (hyphen_mem_of_isCanonicalV4 hc)] at h
  cases h

/-- Digits alone are not base64 of a text whose last two characters are ASCII, the first of them no higher than
the colon. -/
theorem not_isNumeric_of_decode? {s : String} (front : List Char) {x y : Char} (hx : x.toNat ≤ 0x3A)
    (hy : y.toNat ≤ 0x3A)
    (h : Base64.decode? s.toList = some (Utf8.encode (String.ofList (front ++ [x, y])))) : isNumeric s = false := by
  rw [Bool.eq_false_iff]
  intro hs
  have hbytes : Utf8.encode (String.ofList (front ++ [x, y])) =
      Utf8.encode (String.ofList front) ++ [UInt8.ofNat x.toNat, UInt8.ofNat y.toNat] := by
    rw [String.ofList_append, Utf8.encode_append, show [x, y] = [x] ++ [y] from rfl, String.ofList_append,
      Utf8.encode_append, Utf8.encode_singleton (by omega), Utf8.encode_singleton (by omega)]
    rfl
  rcases Base64.decode?_digits ((isNumeric_iff s).1 hs).2 h with h0 | ⟨pre, a, b, c, h3, hb⟩
  · rw [hbytes] at h0
    simp at h0
  · rw [hbytes, show pre ++ [a, b, c] = (pre ++ [a]) ++ [b, c] by simp] at h3
    have := (List.append_inj_right' h3 rfl)
    obtain ⟨rfl, -⟩ := List.cons.inj this
    rw [Base64.toNat_ofNat (by omega)] at hb
    omega

/-- A colon and what follows it end in two characters no higher than the colon. -/
theorem exists_last_two {l : List Char} (hne : l ≠ []) (hl : ∀ c ∈ l, c.toNat ≤ 0x3A) :
    ∃ front x y, ':' :: l = front ++ [x, y] ∧ x.toNat ≤ 0x3A ∧ y.toNat ≤ 0x3A := by
  obtain ⟨l, y, rfl⟩ := (List.eq_nil_or_concat l).resolve_left hne
  have hy : y.toNat ≤ 0x3A := hl y (by simp)
  rcases List.eq_nil_or_concat l with rfl | ⟨l, x, rfl⟩
  · exact ⟨[], ':', y, by simp, by decide, hy⟩
  · exact ⟨':' :: l, x, y, by simp, hl x (by simp), hy⟩

/-- A text that decodes to a type name, a colon, and an id of digits and a sign is not a number itself. -/
theorem not_isNumeric_of_typed {s typeName id : String}
    (h : Base64.decode? s.toList = some (Utf8.encode (typeName ++ ":" ++ id))) (hne : id ≠ "")
    (hid : ∀ c ∈ id.toList, c.toNat ≤ 0x3A) : isNumeric s = false := by
  have hne' : id.toList ≠ [] := fun h0 => hne ((isEmpty_toList id).1 (by simp [h0]))
  obtain ⟨front, x, y, hl, hx, hy⟩ := exists_last_two hne' hid
  refine not_isNumeric_of_decode? (typeName.toList ++ front) hx hy ?_
  have htext : typeName ++ ":" ++ id = String.ofList (typeName.toList ++ front ++ [x, y]) := by
    rw [← String.toList_inj, toList_typed, hl]
    simp
  rw [h, htext]

theorem not_isCanonicalV4_of_decode? {s : String} {bytes : List UInt8} (h : Base64.decode? s.toList = some bytes) :
    isCanonicalV4 s = false := by
  rw [Bool.eq_false_iff]
  intro hs
  rw [decode?_of_hyphen (hyphen_mem_of_isCanonicalV4 hs)] at h
  cases h

/-- **The shapes exclude each other.** -/
theorem HasShape.unique {s : String} {a b : IdShape} (ha : HasShape s a) (hb : HasShape s b) : a = b := by
  have hcn : HasShape s .canonical → HasShape s .numeric → False := by
    intro hc hn
    have := not_isNumeric_of_hyphen (hyphen_mem_of_isCanonicalV4 hc)
    exact absurd hn (by simp [HasShape, this])
  have hcl : HasShape s .canonical → HasShape s .legacy → False := by
    rintro hc ⟨t, id, pk, hd, -⟩
    rw [decodeGlobalId_of_hyphen (hyphen_mem_of_isCanonicalV4 hc)] at hd
    cases hd
  have hnl : HasShape s .numeric → HasShape s .legacy → False := by
    rintro hn ⟨t, id, pk, hd, hpk⟩
    obtain ⟨hb, -, -, hid⟩ := (decodeGlobalId_eq_ok_iff s t id).1 hd
    have hdigits := ((isNumeric_iff id).1 (isNumeric_of_parseKey hpk)).2
    have := not_isNumeric_of_typed hb hid fun c hc => Decimal.le_colon_of_isDigit (hdigits c hc)
    exact absurd hn (by simp [HasShape, this])
  cases a with
  | canonical =>
    cases b with
    | canonical => rfl
    | numeric => exact (hcn ha hb).elim
    | legacy => exact (hcl ha hb).elim
  | numeric =>
    cases b with
    | canonical => exact (hcn hb ha).elim
    | numeric => rfl
    | legacy => exact (hnl ha hb).elim
  | legacy =>
    cases b with
    | canonical => exact (hcl hb ha).elim
    | numeric => exact (hnl hb ha).elim
    | legacy => rfl

/-- A written legacy id is not a number, whatever the type name and the sign of the key. -/
theorem not_isNumeric_encodeGlobalId (typeName : String) (pk : Int64) :
    isNumeric (encodeGlobalId typeName (Decimal.text pk.toInt)) = false := by
  refine not_isNumeric_of_typed (decode?_encodeGlobalId typeName _) ?_ ?_
  · rw [Ne, ← isEmpty_toList, Decimal.toList_text, List.isEmpty_iff]
    exact Decimal.ofInt_ne_nil _
  · intro c hc
    rw [Decimal.toList_text] at hc
    exact Decimal.le_colon_of_mem_ofInt hc

theorem not_isCanonicalV4_encodeGlobalId (typeName id : String) :
    isCanonicalV4 (encodeGlobalId typeName id) = false :=
  not_isCanonicalV4_of_decode? (decode?_encodeGlobalId typeName id)

/-! ## What a written key is not -/

theorem hyphen_mem_text {pk : Int64} (h : ¬ 0 ≤ pk) : '-' ∈ (Decimal.text pk.toInt).toList := by
  obtain ⟨cs, hcs⟩ := toList_text_of_neg h
  rw [hcs]
  exact List.mem_cons_self

/-- A canonical UUID does not start with a minus sign, and digits alone are none. -/
theorem not_isCanonicalV4_text (pk : Int64) : isCanonicalV4 (Decimal.text pk.toInt) = false := by
  rw [Bool.eq_false_iff]
  intro hc
  by_cases hpk : 0 ≤ pk
  · have : IdShape.canonical = IdShape.numeric := HasShape.unique hc ((isNumeric_text_iff pk).2 hpk)
    cases this
  · obtain ⟨cs, hcs⟩ := toList_text_of_neg hpk
    rw [isCanonicalV4, hcs] at hc
    -- the first place of the pattern wants a hexadecimal digit
    change (isLowerHex '-' && _) = true at hc
    rw [show isLowerHex '-' = false by decide] at hc
    cases hc

end RowIdentity
