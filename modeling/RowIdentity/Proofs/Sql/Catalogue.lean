import Mathlib.Data.List.Induction
import Mathlib.Data.List.Nodup
import RowIdentity.Proofs.Registry
import RowIdentity.Proofs.Sql.Quoting
import RowIdentity.Proofs.Trace

/-!
# The triggers that a server holds

* `clip`, `storedName` — the server keeps 63 bytes of a name;
* `Trigger`, `TriggerStatement.execute` — dropping and creating triggers, of which there is one under a name on a table;
* `put`, `mem_foldl_put` — **putting triggers leaves the last one of each name**;
* `Registry.placed`, `calls_installAllTriggers` — what is sent, if nothing was refused;
* `Model.HasTriggers` — the table of a model has its trigger for inserts and its trigger for deletes, for that model;
* `triggers_installed_iff` — **all models have their triggers if their tables are apart and have short names**, and a
  second run changes nothing;
* `triggers_displaced` — under a long name the second trigger takes the place of the first.
-/

namespace RowIdentity

/-! ## Names on the server -/

/-- The characters at the start of a text that fit into a number of bytes. -/
def clip : Nat → List Char → List Char
  | _, [] => []
  | n, c :: cs => if c.utf8Size ≤ n then c :: clip (n - c.utf8Size) cs else []

/-- A name as the server keeps it, in 63 bytes. -/
def storedName (s : String) : String := String.ofList (clip 63 s.toList)

/-- What stands between quotes. -/
def unquoted (s : String) : String := String.ofList s.toList.tail.dropLast

theorem unquoted_name (s : String) : unquoted ("\"" ++ s ++ "\"") = s := by
  simp [unquoted]

theorem unquoted_literal (s : String) : unquoted ("'" ++ s ++ "'") = s := by
  simp [unquoted]

theorem clip_eq_take {cs : List Char} (h : ∀ c ∈ cs, c.utf8Size = 1) (n : Nat) : clip n cs = cs.take n := by
  induction cs generalizing n with
  | nil => simp [clip]
  | cons c cs ih =>
    rw [List.forall_mem_cons] at h
    cases n with
    | zero => simp [clip, h.1]
    | succ n => simp [clip, h.1, ih h.2]

theorem IsNameChar.utf8Size_eq {c : Char} (h : IsNameChar c) : c.utf8Size = 1 := by
  rw [Char.utf8Size_eq_one_iff]
  rcases h with ⟨-, h⟩ | ⟨-, h⟩ | rfl
  · exact UInt32.le_trans h (by decide)
  · exact UInt32.le_trans h (by decide)
  · decide

/-- The bytes of a name are its characters. -/
theorem IsName.toList_storedName {s : String} (h : IsName s) : (storedName s).toList = s.toList.take 63 := by
  rw [storedName, String.toList_ofList, clip_eq_take fun c hc => (h.chars c hc).utf8Size_eq]

theorem IsName.storedName_eq {s : String} (h : IsName s) (hshort : s.length ≤ 63) : storedName s = s := by
  rw [← String.toList_inj, h.toList_storedName, List.take_of_length_le hshort]

/-! ## Triggers -/

/-- A trigger on a table, with the entity type it is for. -/
structure Trigger where
  table : String
  name : String
  change : RowChange
  entityType : String
deriving DecidableEq

/-- Under one name there is one trigger on a table. -/
def Trigger.key (t : Trigger) : String × String := (t.table, t.name)

/-- What a statement does to the triggers that a server holds; a trigger is not created under a name that is taken. -/
def TriggerStatement.execute : TriggerStatement → List Trigger → Option (List Trigger)
  | drop trigger table, ts =>
    some (ts.filter fun t => t.key ≠ (storedName (unquoted table), storedName (unquoted trigger)))
  | create trigger table change entityType, ts =>
    let t : Trigger := ⟨storedName (unquoted table), storedName (unquoted trigger), change, unquoted entityType⟩
    if t.key ∈ ts.map Trigger.key then none else some (ts ++ [t])

/-- What a call does to the triggers that a server holds. -/
def SqlCall.execute : SqlCall → List Trigger → Option (List Trigger)
  | run (.trigger t), ts => t.execute ts
  | _, ts => some ts

/-- What calls one after another do to the triggers. -/
def executeAll (cs : List SqlCall) (ts : List Trigger) : Option (List Trigger) :=
  cs.foldlM (fun ts c => c.execute ts) ts

/-- Puts a trigger in the place of one of its name. -/
def put (ts : List Trigger) (t : Trigger) : List Trigger := (ts.filter fun t' => t'.key ≠ t.key) ++ [t]

theorem mem_put (ts : List Trigger) (x t : Trigger) : t ∈ put ts x ↔ t = x ∨ (t ∈ ts ∧ t.key ≠ x.key) := by
  simp [put, or_comm]

theorem nodup_put {ts : List Trigger} (h : (ts.map Trigger.key).Nodup) (x : Trigger) :
    ((put ts x).map Trigger.key).Nodup := by
  rw [put, List.map_append, List.map_singleton, List.nodup_append]
  refine ⟨h.sublist (List.filter_sublist.map _), List.nodup_singleton _, ?_⟩
  rintro k hk k' hk' rfl
  obtain ⟨t, ht, rfl⟩ := List.mem_map.1 hk
  exact of_decide_eq_true (List.mem_filter.1 ht).2 (List.mem_singleton.1 hk')

theorem nodup_foldl_put (xs : List Trigger) {ts : List Trigger} (h : (ts.map Trigger.key).Nodup) :
    ((xs.foldl put ts).map Trigger.key).Nodup := by
  induction xs generalizing ts with
  | nil => exact h
  | cons x xs ih => exact ih (nodup_put h x)

/-- **Of the triggers that are put under one name the last one is there**; where none is put, the old one stays. -/
theorem mem_foldl_put (xs ts : List Trigger) (t : Trigger) :
    t ∈ xs.foldl put ts ↔
      xs.reverse.find? (fun x => x.key = t.key) = some t ∨ (t ∈ ts ∧ t.key ∉ xs.map Trigger.key) := by
  induction xs using List.reverseRecOn with
  | nil => simp
  | append_singleton xs x ih =>
    rw [List.foldl_append, List.foldl_cons, List.foldl_nil, mem_put, ih, List.reverse_append, List.reverse_singleton,
      List.singleton_append, List.find?_cons]
    by_cases hkey : x.key = t.key
    · simp [hkey, eq_comm]
    · have hne : t ≠ x := fun h => hkey (h ▸ rfl)
      simp [hkey, hne, Ne.symm hkey]

/-- **Each trigger that is put is there at the end if no other one is put under its name**, and only then. -/
theorem forall_mem_foldl_put_iff (xs ts : List Trigger) :
    (∀ x ∈ xs, x ∈ xs.foldl put ts) ↔ ∀ x ∈ xs, ∀ y ∈ xs, x.key = y.key → x = y := by
  have hlast : ∀ x ∈ xs, (x ∈ xs.foldl put ts ↔ xs.reverse.find? (fun y => y.key = x.key) = some x) := fun x hx => by
    rw [mem_foldl_put]
    exact or_iff_left fun h => h.2 (List.mem_map_of_mem hx)
  constructor
  · intro h x hx y hy hkey
    have hfound := (hlast x hx).1 (h x hx)
    rw [hkey, (hlast y hy).1 (h y hy)] at hfound
    exact (Option.some.inj hfound).symm
  · intro h x hx
    rw [hlast x hx]
    cases hfind : xs.reverse.find? (fun y => y.key = x.key) with
    | none => exact absurd (decide_eq_true rfl) (List.find?_eq_none.1 hfind x (List.mem_reverse.2 hx))
    | some y =>
      have hy := List.mem_reverse.1 (List.mem_of_find?_eq_some hfind)
      have hkey : y.key = x.key := by simpa using List.find?_some hfind
      exact congrArg some (h y hy x hx hkey)

/-- Triggers that are put again stay as they are. -/
theorem mem_foldl_put_again (xs ts : List Trigger) (t : Trigger) :
    t ∈ xs.foldl put (xs.foldl put ts) ↔ t ∈ xs.foldl put ts := by
  rw [mem_foldl_put xs (xs.foldl put ts), mem_foldl_put xs ts]
  by_cases hkey : t.key ∈ xs.map Trigger.key
  · simp [hkey]
  · have hnone : xs.reverse.find? (fun x => decide (x.key = t.key)) ≠ some t := fun h =>
      hkey (List.mem_map_of_mem (List.mem_reverse.1 (List.mem_of_find?_eq_some h)))
    simp [hkey, hnone]

/-! ## What is executed -/

/-- The trigger for a change of the table of a model, as the server keeps it. -/
def Model.trigger (model : Model) (change : RowChange) : Trigger :=
  ⟨storedName model.table, storedName (triggerName model.table change), change, model.entityType⟩

/-- The triggers that are put for models, one model after another. -/
def placed (models : List Model) : List Trigger := models.flatMap fun m => [m.trigger .insert, m.trigger .delete]

theorem mem_placed {models : List Model} {t : Trigger} :
    t ∈ placed models ↔ ∃ m ∈ models, ∃ change, m.trigger change = t := by
  rw [placed, List.mem_flatMap]
  refine exists_congr fun m => and_congr_right fun _ => ?_
  rw [List.mem_cons, List.mem_singleton]
  constructor
  · rintro (rfl | rfl)
    · exact ⟨.insert, rfl⟩
    · exact ⟨.delete, rfl⟩
  · rintro ⟨_ | _, rfl⟩
    · exact .inl rfl
    · exact .inr rfl

/-- The statements that are sent for models. -/
def placements (models : List Model) : List SqlCall :=
  models.flatMap fun m =>
    (placeTrigger m.table m.entityType .insert ++ placeTrigger m.table m.entityType .delete).map (.run ∘ .trigger)

theorem executeAll_append (cs ds : List SqlCall) (ts : List Trigger) :
    executeAll (cs ++ ds) ts = (executeAll cs ts).bind (executeAll ds) :=
  List.foldlM_append

/-- A trigger is dropped before it is created, so that its name is free. -/
theorem executeAll_placeTrigger (model : Model) (change : RowChange) (ts : List Trigger) :
    executeAll ((placeTrigger model.table model.entityType change).map (.run ∘ .trigger)) ts =
      some (put ts (model.trigger change)) := by
  have hfree : (model.trigger change).key ∉
      (ts.filter fun t => t.key ≠ (model.trigger change).key).map Trigger.key := fun hmem => by
    obtain ⟨t, ht, hkey⟩ := List.mem_map.1 hmem
    exact of_decide_eq_true (List.mem_filter.1 ht).2 hkey
  simp only [placeTrigger, List.map_cons, List.map_nil, executeAll, List.foldlM_cons, List.foldlM_nil,
    Function.comp_apply, SqlCall.execute, TriggerStatement.execute, unquoted_name, unquoted_literal, bind,
    Option.bind_some]
  exact (congrArg (Option.bind · pure) (if_neg hfree)).trans rfl

/-- **The statements are executed one and all**, and put the triggers of the models. -/
theorem executeAll_placements (models : List Model) (ts : List Trigger) :
    executeAll (placements models) ts = some ((placed models).foldl put ts) := by
  induction models generalizing ts with
  | nil => rfl
  | cons m models ih =>
    rw [placements, List.flatMap_cons, executeAll_append, List.map_append, executeAll_append, executeAll_placeTrigger,
      Option.bind_some, executeAll_placeTrigger, Option.bind_some]
    exact ih _

/-! ## What is sent -/

/-- The models whose rows have entries. -/
def Registry.tracked (registry : Registry) : List Model := registry.models.filter Model.tracksPublicIds

section Sent

variable {σ : Type} {answer : (c : SqlCall) → σ → SqlCall.Reply c × σ} {s s' : σ}

theorem calls_execute {purpose : String} {st : Statement} {n : Nat}
    (h : Program.run (I := Database) answer (Sql.execute purpose st).run s = (.ok n, s')) :
    Program.calls (I := Database) answer (Sql.execute purpose st).run s = [.run st] := by
  obtain ⟨result, s₁, -, -, hcalls⟩ := Program.run_except_bind_eq_ok h
  exact hcalls

theorem calls_forIn (purpose : String) (ts : List TriggerStatement) {u : PUnit}
    (h : Program.run (I := Database) answer
      (forIn ts PUnit.unit fun t _ => do
        let _ ← Sql.execute purpose (.trigger t)
        pure (ForInStep.yield PUnit.unit) : SqlAction PUnit).run s = (.ok u, s')) :
    Program.calls (I := Database) answer
      (forIn ts PUnit.unit fun t _ => do
        let _ ← Sql.execute purpose (.trigger t)
        pure (ForInStep.yield PUnit.unit) : SqlAction PUnit).run s = ts.map (.run ∘ .trigger) := by
  induction ts generalizing s with
  | nil => rfl
  | cons t ts ih =>
    rw [List.forIn_cons] at h ⊢
    obtain ⟨step, s₁, hstep, hrest, hcalls⟩ := Program.run_except_bind_eq_ok h
    obtain ⟨n, s₂, hexecute, hyield, hcalls₁⟩ := Program.run_except_bind_eq_ok hstep
    cases hyield
    rw [hcalls, hcalls₁, calls_execute hexecute, ih hrest]
    rfl

/-- If the triggers of a table are installed, its name and the entity type could be quoted. -/
theorem calls_installTriggers {table entityType : String} {u : Unit}
    (h : Program.run (I := Database) answer (installTriggers table entityType).run s = (.ok u, s')) :
    IsName table ∧ IsTag entityType ∧
      Program.calls (I := Database) answer (installTriggers table entityType).run s =
        (placeTrigger table entityType .insert ++ placeTrigger table entityType .delete).map (.run ∘ .trigger) := by
  obtain ⟨ts, s₁, hts, hrest, hcalls⟩ := Program.run_except_bind_eq_ok h
  cases hstatements : triggerStatements table entityType with
  | error fault =>
    rw [hstatements] at hts
    cases hts
  | ok statements =>
    rw [hstatements] at hts
    cases hts
    obtain ⟨hname, htag, rfl⟩ := (triggerStatements_eq_ok_iff table entityType ts).1 hstatements
    obtain ⟨_, s₂, hloop, -, hcalls₁⟩ := Program.run_except_bind_eq_ok hrest
    refine ⟨hname, htag, hcalls.trans ?_⟩
    rw [hstatements, hcalls₁, calls_forIn _ _ hloop]
    rfl

theorem calls_forM (models : List Model) {u : PUnit}
    (h : Program.run (I := Database) answer
      (models.forM fun m => installTriggers m.table m.entityType : SqlAction PUnit).run s = (.ok u, s')) :
    (∀ m ∈ models, IsName m.table ∧ IsTag m.entityType) ∧
      Program.calls (I := Database) answer
        (models.forM fun m => installTriggers m.table m.entityType : SqlAction PUnit).run s = placements models := by
  induction models generalizing s with
  | nil => exact ⟨nofun, rfl⟩
  | cons m models ih =>
    obtain ⟨⟨⟩, s₁, hfirst, hrest, hcalls⟩ := Program.run_except_bind_eq_ok h
    obtain ⟨hname, htag, hcalls₁⟩ := calls_installTriggers hfirst
    obtain ⟨hnames, hcalls₂⟩ := ih hrest
    refine ⟨List.forall_mem_cons.2 ⟨⟨hname, htag⟩, hnames⟩, hcalls.trans ?_⟩
    rw [hcalls₁, hcalls₂]
    rfl

/-- **What is sent if all goes well**: the statements for each model that tracks public ids. -/
theorem calls_installAllTriggers {registry : Registry} {n : Nat}
    (h : Program.run (I := Database) answer (installAllTriggers registry).run s = (.ok n, s')) :
    n = registry.tracked.length ∧ (∀ m ∈ registry.tracked, IsName m.table) ∧
      Program.calls (I := Database) answer (installAllTriggers registry).run s = placements registry.tracked := by
  obtain ⟨u, s₁, hall, hlength, hcalls⟩ := Program.run_except_bind_eq_ok h
  obtain ⟨hnames, hcalls₁⟩ := calls_forM registry.tracked hall
  cases hlength
  refine ⟨rfl, fun m hm => (hnames m hm).1, hcalls.trans ?_⟩
  refine (congrArg (· ++ _) hcalls₁).trans (List.append_nil _)

end Sent

/-! ## Whose triggers there are -/

/-- On the table of a model there is exactly one trigger of its own for each change, and it is for the model. -/
def Model.HasTriggers (model : Model) (ts : List Trigger) : Prop :=
  ∀ change, (ts.filter fun t => t.table = storedName model.table ∧
    t.name = storedName (triggerName model.table change) ∧ t.change = change).map (·.entityType) = [model.entityType]

instance (p : RowChange → Prop) [DecidablePred p] : Decidable (∀ change, p change) :=
  decidable_of_iff (p .insert ∧ p .delete)
    ⟨fun ⟨hinsert, hdelete⟩ change => by cases change <;> assumption, fun h => ⟨h _, h _⟩⟩

instance (model : Model) (ts : List Trigger) : Decidable (model.HasTriggers ts) :=
  inferInstanceAs (Decidable (∀ _, _))

theorem hasTriggers_iff {ts : List Trigger} (hts : (ts.map Trigger.key).Nodup) (model : Model) :
    model.HasTriggers ts ↔ ∀ change, model.trigger change ∈ ts := by
  refine forall_congr' fun change => ?_
  constructor
  · intro h
    obtain ⟨t, hfilter, htype⟩ := List.map_eq_singleton_iff.1 h
    have ht : t ∈ ts.filter _ := hfilter ▸ List.mem_singleton_self t
    obtain ⟨hmem, hown⟩ := List.mem_filter.1 ht
    obtain ⟨htable, hname, hchange⟩ := of_decide_eq_true hown
    rw [show model.trigger change = t by rw [Model.trigger, ← htable, ← hname, ← htype, ← hchange]]
    exact hmem
  · intro hmem
    -- under its name there is no other trigger on the table
    have hsame : ∀ t ∈ ts, decide (t.table = storedName model.table ∧
        t.name = storedName (triggerName model.table change) ∧ t.change = change) =
          decide (t = model.trigger change) := fun t ht => by
      refine decide_eq_decide.2 ⟨fun ⟨htable, hname, _⟩ => ?_, fun h => h ▸ ⟨rfl, rfl, rfl⟩⟩
      exact List.inj_on_of_nodup_map hts ht hmem (Prod.ext htable hname)
    rw [List.filter_congr hsame, List.filter_eq, List.count_eq_one_of_mem (hts.of_map _) hmem]
    rfl

/-! ## Which names are apart -/

/-- What the names of the triggers of a table have in common, and where they part. -/
theorem toList_triggerName (table : String) (change : RowChange) :
    (triggerName table change).toList = (table ++ "_public_id_").toList ++
      (match change with | .insert => "insert" | .delete => "delete").toList := by
  cases change <;> simp [triggerName, String.toList_append]

/-- **Up to 51 characters the triggers of a table are told apart.** -/
theorem storedName_triggerName_inj {table : String} (h : IsName table) (hshort : table.length ≤ 51)
    {change change' : RowChange}
    (hsame : storedName (triggerName table change) = storedName (triggerName table change')) : change = change' := by
  -- the first character that tells them apart is the 63rd at the latest
  have hplace := congrArg (·.toList[(table ++ "_public_id_").toList.length]?) hsame
  have hlength : (table ++ "_public_id_").toList.length < 63 := by
    rw [String.length_toList, String.length_append]
    exact Nat.lt_of_le_of_lt (Nat.add_le_add_right hshort _) (by decide)
  simp only [(h.triggerName _).toList_storedName, toList_triggerName, List.getElem?_take_of_lt hlength] at hplace
  rw [List.getElem?_append_right (Nat.le_refl _), List.getElem?_append_right (Nat.le_refl _), Nat.sub_self] at hplace
  cases change with
  | insert =>
    cases change' with
    | insert => rfl
    | delete => simp at hplace
  | delete =>
    cases change' with
    | insert => simp at hplace
    | delete => rfl

/-- Beyond 51 characters they are not. -/
theorem storedName_triggerName_eq {table : String} (h : IsName table) (hlong : 51 < table.length)
    (change change' : RowChange) :
    storedName (triggerName table change) = storedName (triggerName table change') := by
  have hlength : 63 ≤ (table ++ "_public_id_").toList.length := by
    rw [String.length_toList, String.length_append]
    exact Nat.le_trans (by decide) (Nat.add_le_add_right hlong _)
  rw [← String.toList_inj, (h.triggerName _).toList_storedName, (h.triggerName _).toList_storedName,
    toList_triggerName, toList_triggerName, List.take_append_of_le_length hlength,
    List.take_append_of_le_length hlength]

/-- No trigger of some models takes the place of another one if their tables are apart and have short names, and only
then. -/
theorem placed_apart_iff {models : List Model} (hnames : ∀ m ∈ models, IsName m.table)
    (htypes : (models.map (·.entityType)).Nodup) :
    (∀ x ∈ placed models, ∀ y ∈ placed models, x.key = y.key → x = y) ↔
      (∀ m ∈ models, m.table.length ≤ 51) ∧ (models.map (·.table)).Nodup := by
  constructor
  · intro h
    refine ⟨fun m hm => Nat.le_of_not_lt fun hlong => ?_, List.Nodup.map_on (fun m hm m' hm' htable => ?_) ?_⟩
    · have hkey : (m.trigger .insert).key = (m.trigger .delete).key :=
        congrArg (storedName m.table, ·) (storedName_triggerName_eq (hnames m hm) hlong .insert .delete)
      have hsame := h _ (mem_placed.2 ⟨m, hm, _, rfl⟩) _ (mem_placed.2 ⟨m, hm, _, rfl⟩) hkey
      cases congrArg Trigger.change hsame
    · have hkey : (m.trigger .insert).key = (m'.trigger .insert).key := by simp [Trigger.key, Model.trigger, htable]
      have hsame := h _ (mem_placed.2 ⟨m, hm, _, rfl⟩) _ (mem_placed.2 ⟨m', hm', _, rfl⟩) hkey
      exact List.inj_on_of_nodup_map htypes hm hm' (congrArg Trigger.entityType hsame)
    · exact htypes.of_map _
  · rintro ⟨hshort, htables⟩ x hx y hy hkey
    obtain ⟨m, hm, change, rfl⟩ := mem_placed.1 hx
    obtain ⟨m', hm', change', rfl⟩ := mem_placed.1 hy
    have hstored : storedName m.table = storedName m'.table := congrArg Prod.fst hkey
    rw [(hnames m hm).storedName_eq (Nat.le_trans (hshort m hm) (by decide)),
      (hnames m' hm').storedName_eq (Nat.le_trans (hshort m' hm') (by decide))] at hstored
    obtain rfl := List.inj_on_of_nodup_map htables hm hm' hstored
    rw [storedName_triggerName_inj (hnames m hm) (hshort m hm) (congrArg Prod.snd hkey)]

/-! ## Installing triggers -/

/-- **What an installation that went well leaves on the server.** Executed one after another, the statements that were
sent leave each model that tracks public ids with one trigger of its own for inserts and one for deletes, if the tables
of these models are apart and have names of at most 51 characters; if not, some model is left without. Executed a
second time, those of another run that went well leave the same triggers. -/
theorem triggers_installed_iff {σ : Type} (registry : Registry) (hregistry : registry.Built)
    (answer : (c : SqlCall) → σ → SqlCall.Reply c × σ) (s s' : σ) (n : Nat)
    (hrun : Program.run (I := Database) answer (installAllTriggers registry).run s = (.ok n, s'))
    (ts : List Trigger) (hts : (ts.map Trigger.key).Nodup) :
    n = registry.tracked.length ∧
    ∃ ts', executeAll (Program.calls (I := Database) answer (installAllTriggers registry).run s) ts = some ts' ∧
      ((∀ model ∈ registry.tracked, model.HasTriggers ts') ↔
        (∀ model ∈ registry.tracked, model.table.length ≤ 51) ∧ (registry.tracked.map (·.table)).Nodup) ∧
      ∀ s₂ n₂ s₂', Program.run (I := Database) answer (installAllTriggers registry).run s₂ = (.ok n₂, s₂') →
        ∃ ts'', executeAll (Program.calls (I := Database) answer (installAllTriggers registry).run s₂) ts' = some ts'' ∧
          ∀ t, t ∈ ts'' ↔ t ∈ ts' := by
  obtain ⟨rfl, hnames, hcalls⟩ := calls_installAllTriggers hrun
  have hplaced : (∀ x ∈ placed registry.tracked, x ∈ (placed registry.tracked).foldl put ts) ↔
      ∀ m ∈ registry.tracked, ∀ change, m.trigger change ∈ (placed registry.tracked).foldl put ts := by
    constructor
    · exact fun h m hm change => h _ (mem_placed.2 ⟨m, hm, change, rfl⟩)
    · intro h x hx
      obtain ⟨m, hm, change, rfl⟩ := mem_placed.1 hx
      exact h m hm change
  refine ⟨rfl, _, by rw [hcalls, executeAll_placements], ?_, fun s₂ n₂ s₂' hagain => ?_⟩
  · have htypes : (registry.tracked.map (·.entityType)).Nodup :=
      hregistry.indexed.types.sublist (List.filter_sublist.map _)
    rw [← placed_apart_iff hnames htypes, ← forall_mem_foldl_put_iff _ ts, hplaced]
    exact forall₂_congr fun m _ => hasTriggers_iff (nodup_foldl_put _ hts) m
  · rw [(calls_installAllTriggers hagain).2.2]
    exact ⟨_, executeAll_placements _ _, mem_foldl_put_again _ ts⟩

/-- A server that refuses nothing and sends no rows. -/
def acceptAll : (c : SqlCall) → Unit → SqlCall.Reply c × Unit
  | .connect _, _ | .begin, _ | .commit, _ => (.ok (), ())
  | .rollback, _ => ((), ())
  | .run _, _ => (.ok (⟨0, []⟩ : SqlResult), ())
  | .flag, _ => (true, ())
  | .stamp, _ => ((⟨.zero, .ofMicros 0⟩ : Stamp), ())

/-- The triggers of widgets. -/
theorem triggers_installed_iff_widgets :
    ∃ ts, executeAll (Program.calls (I := Database) acceptAll (installAllTriggers .widgets).run ()) [] = some ts ∧
      ∀ model ∈ Registry.widgets.tracked, model.HasTriggers ts := by
  obtain ⟨-, ts, hts, hiff, -⟩ := triggers_installed_iff .widgets Registry.built_widgets acceptAll () () 1 rfl []
    List.nodup_nil
  exact ⟨ts, hts, hiff.2 (by decide +kernel)⟩

namespace Registry

/-- Widgets whose table has a name of 52 characters. -/
def longWidget : Model := widget.withTable (String.ofList (List.replicate 52 'w'))

def longNamed : Registry := { widgets with models := [longWidget] }

theorem built_longNamed : Built longNamed :=
  .register .empty (show empty.register longWidget = .ok longNamed from rfl)

end Registry

/-- All statements are accepted for a table with a name of 52 characters, and its trigger for inserts is gone: the one
for deletes is kept under the same 63 characters. -/
theorem triggers_displaced :
    Registry.longNamed.Built ∧
    (Program.run (I := Database) acceptAll (installAllTriggers .longNamed).run ()).1 = .ok 1 ∧
    ∃ ts, executeAll (Program.calls (I := Database) acceptAll (installAllTriggers .longNamed).run ()) [] = some ts ∧
      ts.map (·.change) = [.delete] ∧ ¬∀ model ∈ Registry.longNamed.tracked, model.HasTriggers ts := by
  have hrun : Program.run (I := Database) acceptAll (installAllTriggers .longNamed).run () = (.ok 1, ()) := rfl
  obtain ⟨-, -, hcalls⟩ := calls_installAllTriggers hrun
  rw [hcalls, hrun]
  refine ⟨Registry.built_longNamed, rfl, _, executeAll_placements _ _, ?_, ?_⟩
  · decide +kernel
  · decide +kernel

end RowIdentity
