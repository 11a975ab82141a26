import RowIdentity.Proofs.Lifecycle
import RowIdentity.Proofs.Trace

/-!
# A run among other clients

After each call of a run other clients may do to the database what they like.

* `ClientOp`, `Others` — what another client does, and what all of them do after each call;
* `World.answerAmid`, `World.passed` — the reply to a call, and the states that the database goes through before the
  next one;
* `Stored` — that a row is stored all the time from one call to the next;
* `mapped_runAmid` — **a row that is stored all the time keeps its entry**, if the run itself takes no entries away.
-/

namespace RowIdentity

/-- What another client does to a database. -/
inductive ClientOp where
  | create (entityType : String) (data : Json)
  | createAt (entityType : String) (pk : Int64) (data : Json)
  /-- Rows are loaded as they are. -/
  | load (entityType : String) (rows : List (Int64 × Json))
  | delete (entityType : String) (pk : Int64)
  /-- The entry of a row is asked for, whether the row is stored or not. -/
  | entryOrNew (entityType : String) (pk : Int64)

/-- The state after an operation, at its moment. -/
def ClientOp.apply (registry : Registry) (m : Memory) : Moment × ClientOp → Memory
  | (t, .create ty data) => (m.create registry t ty data).2
  | (t, .createAt ty pk data) => (m.createAt registry t ty pk data).2
  | (t, .load ty rows) => (m.load t.now ty rows).2
  | (_, .delete ty pk) => (m.delete ty pk).2
  | (t, .entryOrNew ty pk) => (m.entryOrNew t ty pk).2

/-- What others do after each call of a run, by the number of the call. -/
abbrev Others := Nat → List (Moment × ClientOp)

namespace World

variable (registry : Registry) (moments : Nat → Moment) (others : Others)

/-- The reply to a call; then it is the others' turn. -/
def answerAmid (c : BackendCall) (w : World) : c.Reply × World :=
  let (r, w') := w.answer registry moments c
  (r, { w' with memory := (others w.calls).foldl (ClientOp.apply registry) w'.memory })

/-- The states from a call on until the next one: the one that the call leaves behind, and one more for each operation
of the others. -/
def passed (c : BackendCall) (w : World) : List Memory :=
  (others w.calls).scanl (ClientOp.apply registry) (w.answer registry moments c).2.memory

/-- Runs a program among others. -/
def runAmid {α : Type} (p : Program Backend α) (w : World) : α × World :=
  p.run (answerAmid registry moments others) w

/-- The calls of a run among others, with the states in which they are made. -/
def stepsAmid {α : Type} (p : Program Backend α) (w : World) : List (BackendCall × World) :=
  p.steps (answerAmid registry moments others) w

end World

/-- The row is stored when a call is made, and ever after until the next one. -/
def Stored (registry : Registry) (moments : Nat → Moment) (others : Others) (ty : String) (pk : Int64)
    (c : BackendCall) (w : World) : Prop :=
  ∀ m ∈ w.memory :: w.passed registry moments others c, (m.row? ty pk).isSome = true

/-- Calls that take no entries away and leave the rows alone. -/
inductive BackendCall.KeepsEntries : BackendCall → Prop
  | keys (ty : String) (after : Option Int64) (limit : Nat) : KeepsEntries (.keys ty after limit)
  | existing (ty : String) (pks : List Int64) : KeepsEntries (.existing ty pks)
  | mapped (ty : String) (pks : List Int64) : KeepsEntries (.mapped ty pks)
  | stamp : KeepsEntries .stamp
  | insertEntries (es : List MappingEntry) : KeepsEntries (.insertEntries es)

variable {registry : Registry} {moments : Nat → Moment} {others : Others} {t : Moment} {m m' : Memory} {w : World}
  {ty : String} {pk : Int64} {c : BackendCall} {α : Type}

theorem BackendCall.KeepsEntries.keeps (hc : c.KeepsEntries) (registry : Registry) (moments : Nat → Moment)
    (w : World) : w.memory.mappings.Keeps (w.answer registry moments c).2.memory.mappings := by
  cases hc with
  | keys ty after limit => exact .refl _
  | existing ty pks => exact .refl _
  | mapped ty pks => exact .refl _
  | stamp => exact .refl _
  | insertEntries es =>
    change w.memory.mappings.Keeps (w.memory.insertEntries es).2.mappings
    rw [Memory.insertEntries_snd]
    exact .insertAll _ es

/-! ## What others do -/

theorem Memory.Inserted.keeps (hm : m.Regular) {r : Row} (h : Inserted registry t m r m') :
    m.mappings.Keeps m'.mappings := by
  have hmap := h.mappings
  split at hmap
  next =>
    obtain ⟨e, rest, hget⟩ := hmap
    exact .getOrInsert hm.coherent hget
  next =>
    rw [hmap]
    exact .refl _

namespace ClientOp

theorem regular (hm : m.Regular) (op : Moment × ClientOp) : (apply registry m op).Regular := by
  obtain ⟨t, op⟩ := op
  cases op with
  | create ty data => exact hm.create ty data
  | createAt ty pk data => exact hm.createAt ty pk data
  | load ty rows => exact hm.load t.now ty rows
  | delete ty pk => exact hm.delete ty pk
  | entryOrNew ty pk => exact hm.entryOrNew ty pk

theorem regular_foldl (hm : m.Regular) (ops : List (Moment × ClientOp)) :
    (ops.foldl (apply registry) m).Regular := by
  induction ops generalizing m with
  | nil => exact hm
  | cons op ops ih => exact ih (regular hm op)

/-- A row that is still stored afterwards keeps its entry. -/
theorem isSome_idOf? (hm : m.Regular) (hid : (m.mappings.idOf? ty pk).isSome = true) {op : Moment × ClientOp}
    (hrow : ((apply registry m op).row? ty pk).isSome = true) :
    ((apply registry m op).mappings.idOf? ty pk).isSome = true := by
  obtain ⟨t, op⟩ := op
  cases op with
  | create ty' data =>
    rcases heq : m.create registry t ty' data with ⟨_ | r, m'⟩
    · simpa only [apply, heq, Memory.create_error heq] using hid
    · simpa only [apply, heq] using ((Memory.create_ok heq).2.2.keeps hm).isSome_idOf? hid
  | createAt ty' pk' data =>
    rcases heq : m.createAt registry t ty' pk' data with ⟨_ | r, m'⟩
    · simpa only [apply, heq, Memory.createAt_error heq] using hid
    · simpa only [apply, heq] using ((Memory.createAt_ok heq).2.2.keeps hm).isSome_idOf? hid
  | load ty' rows =>
    simpa only [apply, Memory.mappings_load] using hid
  | delete ty' pk' =>
    by_cases hsame : (ty, pk) = (ty', pk')
    · obtain ⟨rfl, rfl⟩ := Prod.mk.inj hsame
      -- it is not stored after its deletion
      simp only [apply, Memory.delete_eq] at hrow ⊢
      split at hrow
      next => simp [Memory.row?_dropRow] at hrow
      next hnone => rwa [if_neg hnone]
    · simpa only [apply, m.idOf?_delete ty' pk' hsame] using hid
  | entryOrNew ty' pk' =>
    rcases heq : m.entryOrNew t ty' pk' with ⟨_ | e, m'⟩
    · simpa only [apply, heq, Memory.entryOrNew_error heq] using hid
    · obtain ⟨mappings, rest, hget, rfl⟩ := Memory.entryOrNew_ok heq
      simpa only [apply, heq] using (MappingTable.Keeps.getOrInsert hm.coherent hget).isSome_idOf? hid

/-- It keeps it through many operations, if it is stored after each of them. -/
theorem isSome_idOf?_foldl (hm : m.Regular) (hid : (m.mappings.idOf? ty pk).isSome = true)
    {ops : List (Moment × ClientOp)} (hrow : ∀ m' ∈ ops.scanl (apply registry) m, (m'.row? ty pk).isSome = true) :
    ((ops.foldl (apply registry) m).mappings.idOf? ty pk).isSome = true := by
  induction ops generalizing m with
  | nil => exact hid
  | cons op ops ih =>
    rw [List.scanl_cons] at hrow
    have hrest := fun m' hm' => hrow m' (List.mem_cons_of_mem _ hm')
    have hfirst : apply registry m op ∈ ops.scanl (apply registry) (apply registry m op) := by
      cases ops <;> simp
    exact ih (regular hm op) (isSome_idOf? hm hid (hrest _ hfirst)) hrest

end ClientOp

/-! ## Runs -/

namespace World

section

variable {β ε : Type}

theorem runAmid_bind (p : Program Backend α) (f : α → Program Backend β) (w : World) :
    w.runAmid registry moments others (p >>= f) =
      (w.runAmid registry moments others p).2.runAmid registry moments others
        (f (w.runAmid registry moments others p).1) :=
  Program.run_bind _ p f w

theorem stepsAmid_bind (p : Program Backend α) (f : α → Program Backend β) (w : World) :
    w.stepsAmid registry moments others (p >>= f) =
      w.stepsAmid registry moments others p ++
        (w.runAmid registry moments others p).2.stepsAmid registry moments others
          (f (w.runAmid registry moments others p).1) :=
  Program.steps_bind p f w

/-- A program that may fail goes on as long as it does not. -/
theorem runAmid_run_bind (a : ExceptT ε (Program Backend) α) (f : α → ExceptT ε (Program Backend) β) (w : World) :
    w.runAmid registry moments others (a >>= f).run =
      match w.runAmid registry moments others a.run with
      | (.ok x, w') => w'.runAmid registry moments others (f x).run
      | (.error e, w') => (.error e, w') := by
  rw [ExceptT.run_bind, runAmid_bind]
  rcases w.runAmid registry moments others a.run with ⟨_ | _, w'⟩
  · rfl
  · rfl

theorem stepsAmid_run_bind (a : ExceptT ε (Program Backend) α) (f : α → ExceptT ε (Program Backend) β) (w : World) :
    w.stepsAmid registry moments others (a >>= f).run =
      w.stepsAmid registry moments others a.run ++
        match w.runAmid registry moments others a.run with
        | (.ok x, w') => w'.stepsAmid registry moments others (f x).run
        | (.error _, _) => [] := by
  rw [ExceptT.run_bind, stepsAmid_bind]
  rcases w.runAmid registry moments others a.run with ⟨_ | _, w'⟩
  · rfl
  · rfl

/-- A program whose faults are looked at rather than passed on. -/
theorem runAmid_lift (p : Program Backend α) (w : World) :
    w.runAmid registry moments others (ExceptT.lift p : ExceptT ε (Program Backend) α).run =
      (.ok (w.runAmid registry moments others p).1, (w.runAmid registry moments others p).2) :=
  Program.run_except_lift p w

theorem stepsAmid_lift (p : Program Backend α) (w : World) :
    w.stepsAmid registry moments others (ExceptT.lift p : ExceptT ε (Program Backend) α).run =
      w.stepsAmid registry moments others p :=
  Program.steps_except_lift p w

end

variable (registry moments others) in
theorem regular_answerAmid (hw : w.memory.Regular) (c : BackendCall) :
    (w.answerAmid registry moments others c).2.memory.Regular :=
  ClientOp.regular_foldl (hw.answer _ c) _

variable (registry moments others) in
theorem regular_runAmid (hw : w.memory.Regular) (p : Program Backend α) :
    (w.runAmid registry moments others p).2.memory.Regular := by
  unfold runAmid
  induction p generalizing w with
  | done a => exact hw
  | call c next ih => exact ih _ (regular_answerAmid registry moments others hw c)

/-- What has an entry after a call has one after the others' turn. -/
theorem mapped_answerAmid (hw : w.memory.Regular) (hstored : Stored registry moments others ty pk c w)
    (hid : ((w.answer registry moments c).2.memory.mappings.idOf? ty pk).isSome = true) :
    ((w.answerAmid registry moments others c).2.memory.mappings.idOf? ty pk).isSome = true :=
  ClientOp.isSome_idOf?_foldl (hw.answer _ c) hid fun m hm => hstored m (List.mem_cons_of_mem _ hm)

/-- **A row that is stored all the time keeps its entry** through a run that takes no entries away. -/
theorem mapped_runAmid (hw : w.memory.Regular) {p : Program Backend α} (hp : p.Makes BackendCall.KeepsEntries)
    (hstored : ∀ x ∈ w.stepsAmid registry moments others p, Stored registry moments others ty pk x.1 x.2)
    (hid : (w.memory.mappings.idOf? ty pk).isSome = true) :
    ((w.runAmid registry moments others p).2.memory.mappings.idOf? ty pk).isSome = true := by
  unfold runAmid
  induction p generalizing w with
  | done a => exact hid
  | call c next ih =>
    have hnow := hstored (c, w) List.mem_cons_self
    have hkept := (hp.1.keeps registry moments w).isSome_idOf? hid
    refine ih _ (regular_answerAmid registry moments others hw c) (hp.2 _) ?_ (mapped_answerAmid hw hnow hkept)
    exact fun x hx => hstored x (List.mem_cons_of_mem _ hx)

end World

end RowIdentity
