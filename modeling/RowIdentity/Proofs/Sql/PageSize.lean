import RowIdentity.Proofs.Sql.Agreement
import RowIdentity.Proofs.Trace
import RowIdentity.Sql.Store

/-!
# Sizes that reach the server

A size is an unsigned word, and a statement binds it as a signed one.

* `RowSelect.word_nonneg_iff` — **the signed word of a size is negative from 2⁶³ on**;
* `Statement.Cuts` — a statement binds no negative size and leaves the page that is wanted;
* `Statement.cuts_keys_iff`, `cuts_select_iff` — **a listing and a select cut as they are asked to below 2⁶³ only**;
* `Program.Sends` — the one statement that a program sends, if it sends any;
* `SqlStore.sends_keys`, `sends_fetch`, `sends_countRows` — the statements of the calls that take sizes, and of the one
  that takes none.
-/

namespace RowIdentity

/-! ## Signed words -/

/-- **The signed word of a size is negative from 2⁶³ on.** -/
theorem RowSelect.word_nonneg_iff {n : Nat} (h : n < UInt64.size) : 0 ≤ word n ↔ n < 2 ^ 63 := by
  refine ⟨fun hn => ?_, word_nonneg⟩
  rw [Int64.le_iff_toInt_le, word, Int64.toInt_zero, Int64.toInt_ofNat', Int.bmod] at hn
  simp only [UInt64.size, Int64.size] at h hn
  omega

/-! ## Pages of statements -/

namespace Statement

/-- How many rows a statement asks for at most. -/
def limit? : Statement → Option Int64
  | keys _ _ limit => some limit
  | select s => s.limit
  | _ => none

/-- How many rows a statement skips. -/
def offset? : Statement → Option Int64
  | select s => s.offset
  | _ => none

/-- The page that a statement cuts out of its rows. -/
def cut {α : Type} : Statement → List α → List α
  | keys _ _ limit, rows => rows.take limit.toNatClampNeg
  | select s, rows => s.cut rows
  | _, rows => rows

/-- The statement binds no negative size, which the server would refuse, and of as many rows as there are keys above
zero it leaves those that are wanted. -/
structure Cuts (s : Statement) (wanted : (α : Type) → List α → List α) : Prop where
  limit_nonneg : ∀ n ∈ s.limit?, 0 ≤ n
  offset_nonneg : ∀ n ∈ s.offset?, 0 ≤ n
  cut_eq : ∀ (α : Type) (rows : List α), rows.length < 2 ^ 63 → s.cut rows = wanted α rows

/-- **A listing of keys is cut as it is asked to below 2⁶³ only.** -/
theorem cuts_keys_iff (table : String) (after : Option Int64) {n : Nat} (h : n < UInt64.size) :
    (keys table after (RowSelect.word n)).Cuts (fun _ => List.take n) ↔ n < 2 ^ 63 := by
  constructor
  · intro hcuts
    exact (RowSelect.word_nonneg_iff h).1 (hcuts.limit_nonneg _ rfl)
  · intro hn
    refine ⟨?_, nofun, fun α rows _ => ?_⟩
    · rintro _ ⟨⟩
      exact RowSelect.word_nonneg hn
    · rw [cut, RowSelect.word, Int64.toNatClampNeg_ofNat_of_lt hn]

/-- **A select is cut as its query asks if limit and offset are below 2⁶³, and only then.** -/
theorem cuts_select_iff (table : String) {q : RowQuery} (hoffset : q.offset < UInt64.size)
    (hlimit : ∀ n ∈ q.limit, n < UInt64.size) :
    (select (.ofQuery table false q)).Cuts (fun _ => q.page) ↔ q.offset < 2 ^ 63 ∧ ∀ n ∈ q.limit, n < 2 ^ 63 := by
  have hbound : (select (.ofQuery table false q)).limit? = q.limit.map RowSelect.word := rfl
  have hskipped : (select (.ofQuery table false q)).offset? =
      if q.offset = 0 then none else some (RowSelect.word q.offset) := by
    simp [offset?, RowSelect.ofQuery]
  constructor
  · intro hcuts
    refine ⟨?_, fun n hn => ?_⟩
    · by_cases hzero : q.offset = 0
      · omega
      · refine (RowSelect.word_nonneg_iff hoffset).1 (hcuts.offset_nonneg _ ?_)
        rw [hskipped, if_neg hzero]
        rfl
    · refine (RowSelect.word_nonneg_iff (hlimit n hn)).1 (hcuts.limit_nonneg _ ?_)
      rw [hbound, Option.mem_def.1 hn]
      rfl
  · rintro ⟨hoffset, hlimit⟩
    refine ⟨fun n hn => ?_, fun n hn => ?_, fun α rows _ => RowQuery.cut_ofQuery table hoffset hlimit rows⟩
    · rw [hbound] at hn
      obtain ⟨k, hk, rfl⟩ := Option.map_eq_some_iff.1 hn
      exact RowSelect.word_nonneg (hlimit k hk)
    · rw [hskipped] at hn
      split at hn
      · cases hn
      · obtain rfl := Option.mem_some.1 hn
        exact RowSelect.word_nonneg hoffset

end Statement

/-! ## The statements of a program -/

section

variable {α β : Type} {s : Statement}

/-- A call that sends no statement. -/
def SqlCall.Silent (c : SqlCall) : Prop := ∀ s, c ≠ .run s

/-- What a program sends: one statement at its beginning and no other one, or none at all. -/
def Program.Sends : Option Statement → Program Database α → Prop
  | none, p => p.Makes SqlCall.Silent
  | some s, p => ∃ next, p = .call (I := Database) (.run s) next ∧ ∀ r, (next r).Makes SqlCall.Silent

theorem Program.Sends.except_bind {a : SqlAction α} {f : α → SqlAction β} (ha : Sends (some s) a.run)
    (hf : ∀ x, Makes (I := Database) SqlCall.Silent (f x).run) : Sends (some s) (a >>= f).run := by
  obtain ⟨next, hcall, hnext⟩ := ha
  rw [ExceptT.run_bind]
  change Sends (some s) (a.run.bind _)
  rw [hcall]
  refine ⟨_, rfl, fun r => Makes.bind (hnext r) fun x => ?_⟩
  cases x with
  | ok x => exact hf x
  | error e => trivial

namespace Sql

open Program

theorem sends_run (purpose : String) (s : Statement) : Sends (some s) (run purpose s).run :=
  ⟨_, rfl, fun _ => trivial⟩

/-- Rows are decoded without a call. -/
theorem makes_decode {Q : SqlCall → Prop} (purpose : String) (read : List SqlCell → Except Nat α)
    (row : List SqlCell) : Makes (I := Database) Q (decode purpose read row).run := by
  unfold decode
  split
  · trivial
  · trivial

theorem sends_fetchAll (purpose : String) (read : List SqlCell → Except Nat α) (s : Statement) :
    Sends (some s) (fetchAll purpose read s).run :=
  (sends_run purpose s).except_bind fun _ => .mapM fun row => makes_decode purpose read row

theorem sends_fetchOptional (purpose : String) (read : List SqlCell → Except Nat α) (s : Statement) :
    Sends (some s) (fetchOptional purpose read s).run := by
  refine (sends_run purpose s).except_bind fun r => ?_
  split
  · trivial
  · exact Makes.except_bind (makes_decode purpose read _) fun _ => trivial

theorem sends_fetchOne (purpose : String) (read : List SqlCell → Except Nat α) (s : Statement) :
    Sends (some s) (fetchOne purpose read s).run := by
  refine (sends_fetchOptional purpose read s).except_bind fun r => ?_
  split
  · trivial
  · trivial

end Sql

end

/-! ## Calls that take sizes -/

namespace SqlStore

open Program

section

variable (registry : Registry)

/-- What a call sends to the table of a type, if the type has one. -/
theorem sends_table {α : Type} (ty : String) {statement : String → Statement} {f : String → SqlAction α}
    (hf : ∀ table, Sends (some (statement table)) (f table).run) :
    Sends ((table registry ty).toOption.map statement) ((table registry ty : SqlAction String) >>= f).run := by
  cases table registry ty with
  | error e => trivial
  | ok table => exact hf table

/-- A query that is not valid is not sent. -/
theorem sends_validated {α : Type} (q : RowQuery) {s? : Option Statement} {a : SqlAction α} (ha : Sends s? a.run) :
    Sends (if q.isValid then s? else none) ((q.validate : SqlAction Unit) >>= fun _ => a).run := by
  unfold RowQuery.validate
  cases q.isValid with
  | false => trivial
  | true => exact ha

/-- Listing keys is one statement, which binds the word of the limit. -/
theorem sends_keys (ty : String) (after : Option Int64) (limit : Nat) :
    Sends ((table registry ty).toOption.map fun table => .keys table after (RowSelect.word limit))
      (keys registry ty after limit).run :=
  sends_table registry ty fun _ => Sql.sends_fetchAll _ readKey _

/-- A query is one select. -/
theorem sends_fetch (q : RowQuery) :
    Sends (if q.isValid then
        (table registry q.entityType).toOption.map fun table => .select (.ofQuery table false q) else none)
      (fetch registry q).run := by
  refine sends_validated q (sends_table registry q.entityType fun table => ?_)
  refine (Sql.sends_fetchAll _ readAnnotated _).except_bind fun rows => .mapM fun row => ?_
  exact Makes.except_bind (a := Sql.stamp) ⟨fun _ => nofun, fun _ => trivial⟩ fun _ => trivial

/-- Counting is one select. -/
theorem sends_countRows (q : RowQuery) :
    Sends (if q.isValid then
        (table registry q.entityType).toOption.map fun table => .select (.ofQuery table true q) else none)
      (countRows registry q).run := by
  refine sends_validated q (sends_table registry q.entityType fun table => ?_)
  rw [map_eq_pure_bind]
  exact (Sql.sends_fetchOne _ readKey _).except_bind fun _ => trivial

end

end SqlStore

end RowIdentity
