import RowIdentity.Sql.Store

/-!
# What can stand between quotes

* `IsName`, `IsTag` — names of tables and triggers, and entity types, that are accepted;
* `quoteIdentifier_eq_ok_iff`, `quoteLiteral_eq_ok_iff` — **nothing else is quoted**, and what is quoted is kept as
  it is;
* `triggerStatements_eq_ok_iff` — the statements for one table, and when there are any;
* `SqlStore.table_eq_ok_iff` — the name under which rows of an entity type are sought.
-/

namespace RowIdentity

variable {registry : Registry} {s q : String}

/-! ## Names -/

/-- A small letter, a digit or an underscore. -/
def IsNameChar (c : Char) : Prop := ('a' ≤ c ∧ c ≤ 'z') ∨ ('0' ≤ c ∧ c ≤ '9') ∨ c = '_'

/-- Small letters, digits and underscores, at least one of them, and no digit at the start. -/
structure IsName (s : String) : Prop where
  ne_nil : s.toList ≠ []
  head : ∀ c ∈ s.toList.head?, ¬('0' ≤ c ∧ c ≤ '9')
  chars : ∀ c ∈ s.toList, IsNameChar c

theorem isDigit_iff (c : Char) : c.isDigit = true ↔ '0' ≤ c ∧ c ≤ '9' :=
  Bool.and_eq_true_iff.trans (and_congr decide_eq_true_iff decide_eq_true_iff)

theorem isLower_iff (c : Char) : c.isLower = true ↔ 'a' ≤ c ∧ c ≤ 'z' :=
  Bool.and_eq_true_iff.trans (and_congr decide_eq_true_iff decide_eq_true_iff)

theorem isUpper_iff (c : Char) : c.isUpper = true ↔ 'A' ≤ c ∧ c ≤ 'Z' := decide_eq_true_iff

theorem isIdentifierChar_iff (c : Char) : isIdentifierChar c = true ↔ IsNameChar c := by
  rw [isIdentifierChar, Bool.or_eq_true, Bool.or_eq_true, isLower_iff, isDigit_iff, decide_eq_true_eq, or_assoc]
  rfl

theorem isPlainIdentifier_iff (s : String) : isPlainIdentifier s = true ↔ IsName s := by
  unfold isPlainIdentifier
  simp only [Bool.and_eq_true, Bool.not_eq_true', List.isEmpty_eq_false_iff, List.all_eq_true, isIdentifierChar_iff]
  constructor
  · rintro ⟨⟨hne, hhead⟩, hchars⟩
    refine ⟨hne, fun c hc hdigit => ?_, hchars⟩
    rw [Option.mem_def.1 hc, Option.any_some, (isDigit_iff c).2 hdigit] at hhead
    cases hhead
  · rintro ⟨hne, hhead, hchars⟩
    refine ⟨⟨hne, ?_⟩, hchars⟩
    cases hc : s.toList.head? with
    | none => rfl
    | some c => rw [Option.any_some, Bool.eq_false_iff, Ne, isDigit_iff]; exact hhead c hc

/-- Between its quotes a name is what it was, and only names are quoted. -/
theorem quoteIdentifier_eq_ok_iff (s q : String) : quoteIdentifier s = .ok q ↔ IsName s ∧ q = "\"" ++ s ++ "\"" := by
  unfold quoteIdentifier
  rw [← isPlainIdentifier_iff]
  by_cases h : isPlainIdentifier s = true
  · simp [h, eq_comm]
  · simp [h]

/-- More characters of names make a longer name. -/
theorem IsName.append (h : IsName s) {t : String} (ht : t.toList.all isIdentifierChar = true) : IsName (s ++ t) where
  ne_nil := by simp [h.ne_nil]
  head := by
    have hhead := h.head
    obtain ⟨c, cs, hs⟩ := List.exists_cons_of_ne_nil h.ne_nil
    rw [String.toList_append, hs]
    rw [hs] at hhead
    exact hhead
  chars := by
    rw [String.toList_append]
    refine fun c hc => (List.mem_append.1 hc).elim (h.chars c) fun hc => ?_
    exact (isIdentifierChar_iff c).1 (List.all_eq_true.1 ht c hc)

/-! ## Entity types -/

/-- A letter, a digit, an underscore or a full stop. -/
def IsTagChar (c : Char) : Prop :=
  ('A' ≤ c ∧ c ≤ 'Z') ∨ ('a' ≤ c ∧ c ≤ 'z') ∨ ('0' ≤ c ∧ c ≤ '9') ∨ c = '_' ∨ c = '.'

/-- Letters, digits, underscores and full stops, at least one of them. -/
structure IsTag (s : String) : Prop where
  ne_nil : s.toList ≠ []
  chars : ∀ c ∈ s.toList, IsTagChar c

theorem isPlainEntityType_iff (s : String) : isPlainEntityType s = true ↔ IsTag s := by
  have hchar (c : Char) : (c.isAlphanum || c = '_' || c = '.') = true ↔ IsTagChar c := by
    change (((c.isUpper || c.isLower) || c.isDigit) || c = '_' || c = '.') = true ↔ _
    simp only [Bool.or_eq_true, isUpper_iff, isLower_iff, isDigit_iff, decide_eq_true_eq, or_assoc, IsTagChar]
  unfold isPlainEntityType
  simp only [Bool.and_eq_true, Bool.not_eq_true', List.isEmpty_eq_false_iff, List.all_eq_true, hchar]
  exact ⟨fun h => ⟨h.1, h.2⟩, fun h => ⟨h.ne_nil, h.chars⟩⟩

/-- Between its quotes an entity type is what it was, and only plain ones are quoted. -/
theorem quoteLiteral_eq_ok_iff (s q : String) : quoteLiteral s = .ok q ↔ IsTag s ∧ q = "'" ++ s ++ "'" := by
  unfold quoteLiteral
  rw [← isPlainEntityType_iff]
  by_cases h : isPlainEntityType s = true
  · simp [h, eq_comm]
  · simp [h]

/-! ## Where names are quoted -/

/-- The name of the trigger that follows a change of a table. -/
def triggerName (table : String) : RowChange → String
  | .insert => table ++ "_public_id_insert"
  | .delete => table ++ "_public_id_delete"

theorem IsName.triggerName (h : IsName s) (change : RowChange) : IsName (triggerName s change) := by
  cases change with
  | insert => exact h.append (by decide)
  | delete => exact h.append (by decide)

/-- The statements that put the trigger of a change on a table, in place of an older one. -/
def placeTrigger (table entityType : String) (change : RowChange) : List TriggerStatement :=
  [.drop ("\"" ++ triggerName table change ++ "\"") ("\"" ++ table ++ "\""),
    .create ("\"" ++ triggerName table change ++ "\"") ("\"" ++ table ++ "\"") change ("'" ++ entityType ++ "'")]

/-- **Triggers are put on a table under names made of its own**, if its name and the entity type can be quoted. -/
theorem triggerStatements_eq_ok_iff (table entityType : String) (ts : List TriggerStatement) :
    triggerStatements table entityType = .ok ts ↔
      IsName table ∧ IsTag entityType ∧
        ts = placeTrigger table entityType .insert ++ placeTrigger table entityType .delete := by
  by_cases hname : IsName table
  · have hquoted := (quoteIdentifier_eq_ok_iff table _).2 ⟨hname, rfl⟩
    have hinsert := (quoteIdentifier_eq_ok_iff (table ++ "_public_id_insert") _).2 ⟨hname.triggerName .insert, rfl⟩
    have hdelete := (quoteIdentifier_eq_ok_iff (table ++ "_public_id_delete") _).2 ⟨hname.triggerName .delete, rfl⟩
    cases hliteral : quoteLiteral entityType with
    | error e =>
      have htag : ¬IsTag entityType := fun htag => by
        rw [(quoteLiteral_eq_ok_iff entityType _).2 ⟨htag, rfl⟩] at hliteral
        cases hliteral
      simp [triggerStatements, hquoted, hliteral, htag, bind, Except.bind]
    | ok literal =>
      obtain ⟨htag, rfl⟩ := (quoteLiteral_eq_ok_iff entityType literal).1 hliteral
      simp [triggerStatements, hquoted, hliteral, hinsert, hdelete, hname, htag, bind, Except.bind, pure, Except.pure,
        placeTrigger, triggerName, eq_comm]
  · cases hquoted : quoteIdentifier table with
    | error e => simp [triggerStatements, hquoted, hname, bind, Except.bind]
    | ok quoted => exact absurd ((quoteIdentifier_eq_ok_iff table quoted).1 hquoted).1 hname

/-- Rows of a registered model are sought under the name of its table, if that can be quoted. -/
theorem SqlStore.table_eq_ok_iff (registry : Registry) (entityType table : String) :
    SqlStore.table registry entityType = .ok table ↔
      ∃ model, registry.get? entityType = some model ∧ IsName model.table ∧ table = "\"" ++ model.table ++ "\"" := by
  unfold SqlStore.table
  cases registry.get? entityType with
  | none => simp
  | some model => simp [quoteIdentifier_eq_ok_iff]

end RowIdentity
