import Mathlib.Data.List.Induction
import RowIdentity.Graph.Execution
import RowIdentity.Proofs.Assoc
import RowIdentity.Proofs.Memory

/-!
# The answer to a query document

* `Graph.outcomes` — the root fields of an operation, one after another, each outcome under the key of its field;
* `Graph.Answer.Collects` — an answer tells the last outcome of each key, and all failures in order;
* `Graph.Answer.Collects.add`, `Graph.Answer.collects_ofOutcomes` — each field adds its outcome, so that **an answer
  collects the outcomes of all fields**;
* `Graph.errors_beside_nulls` — **an error is beside a null unless a later field of the same key has a value**.
-/

namespace RowIdentity

/-! ## Fields of objects -/

theorem Json.findField?_eq_get? (fields : List (String × Json)) (name : String) :
    findField? fields name = Assoc.get? fields name := by
  induction fields with
  | nil => rfl
  | cons field fields ih =>
    obtain ⟨k, v⟩ := field
    by_cases hk : k = name
    · simp [findField?, hk]
    · simpa [findField?, hk] using ih

theorem Json.putField_eq_put (fields : List (String × Json)) (name : String) (v : Json) :
    putField fields name v = Assoc.put fields name v := by
  induction fields with
  | nil => rfl
  | cons field fields ih =>
    obtain ⟨k, w⟩ := field
    rw [putField, Assoc.put, ih]

namespace Graph

/-! ## Outcomes of fields -/

/-- What came out of the root fields, each under the key of its field. -/
abbrev Outcomes := List (String × IdResult Json)

namespace Outcomes

/-- The failures, in the order of the fields. -/
def failures (os : Outcomes) : List FieldFailure :=
  os.filterMap fun o =>
    match o.2 with
    | .ok _ => none
    | .error e => some ⟨o.1, e⟩

/-- The outcome of the last field of a key. -/
def last? (os : Outcomes) (key : String) : Option (IdResult Json) := Assoc.get? os.reverse key

theorem last?_concat (os : Outcomes) (key : String) (r : IdResult Json) (key' : String) :
    last? (os ++ [(key, r)]) key' = if key = key' then some r else last? os key' := by
  rw [last?, List.reverse_append]
  rfl

theorem last?_isSome_iff (os : Outcomes) (key : String) : (os.last? key).isSome = true ↔ key ∈ os.map (·.1) := by
  rw [← not_iff_not, Bool.not_eq_true, Option.isSome_eq_false_iff, Option.isNone_iff_eq_none, last?,
    Assoc.get?_eq_none_iff, Assoc.keys, List.map_reverse, List.mem_reverse]

/-- With keys that are apart the last outcome of a key is its only one. -/
theorem last?_of_nodup {os : Outcomes} (h : (os.map (·.1)).Nodup) {o : String × IdResult Json} (ho : o ∈ os) :
    os.last? o.1 = some o.2 := by
  have hreverse : (Assoc.keys os.reverse).Nodup := by
    rw [Assoc.keys, List.map_reverse]
    exact List.nodup_reverse.2 h
  exact (Assoc.get?_eq_some_iff_mem hreverse _ _).2 (List.mem_reverse.2 ho)

theorem mem_failures_iff (os : Outcomes) (f : FieldFailure) : f ∈ os.failures ↔ (f.key, .error f.error) ∈ os := by
  rw [failures, List.mem_filterMap]
  constructor
  · rintro ⟨⟨key, r⟩, ho, hr⟩
    cases r with
    | ok v => cases hr
    | error e =>
      cases hr
      exact ho
  · exact fun h => ⟨_, h, rfl⟩

end Outcomes

/-- What is shown for an outcome: null for a failure. -/
def shown : IdResult Json → Json
  | .ok v => v
  | .error _ => .null

/-! ## Answers -/

namespace Answer

/-- The answer tells the last outcome of each key, and all failures in order. -/
structure Collects (os : Outcomes) (a : Answer) : Prop where
  keys : (Assoc.keys a.data).Nodup
  data : ∀ key, Json.findField? a.data key = (os.last? key).map shown
  failures : a.failures = os.failures

theorem Collects.nil : Collects [] ⟨[], []⟩ := ⟨List.nodup_nil, fun _ => rfl, rfl⟩

/-- Each field adds its outcome. -/
theorem Collects.add {os : Outcomes} {a : Answer} (h : Collects os a) (key : String) (r : IdResult Json) :
    Collects (os ++ [(key, r)]) (a.add key r) := by
  have hdata : (a.add key r).data = Assoc.put a.data key (shown r) := by
    rw [← Json.putField_eq_put]
    cases r <;> rfl
  refine ⟨?_, fun key' => ?_, ?_⟩
  · rw [hdata]
    exact Assoc.nodup_put h.keys key _
  · rw [Json.findField?_eq_get?, hdata, Assoc.get?_put, ← Json.findField?_eq_get?, h.data, Outcomes.last?_concat]
    split
    · rfl
    · rfl
  · rw [Outcomes.failures, List.filterMap_append, ← Outcomes.failures, ← h.failures]
    cases r with
    | ok v => exact (List.append_nil _).symm
    | error e => rfl

/-- The answer that is made up of outcomes. -/
def ofOutcomes (os : Outcomes) : Answer := os.foldl (fun a o => a.add o.1 o.2) ⟨[], []⟩

/-- **An answer collects the outcomes of all fields**; the induction is on the fields that have been executed. -/
theorem collects_ofOutcomes (os : Outcomes) : Collects os (ofOutcomes os) := by
  induction os using List.reverseRecOn with
  | nil => exact .nil
  | append_singleton os o ih =>
    rw [ofOutcomes, List.foldl_append]
    exact ih.add o.1 o.2

end Answer

/-! ## Executing fields -/

/-- The root fields, one after another. -/
def outcomes (registry : Registry) (vars : Variables) (fields : List Field) : Program Backend Outcomes :=
  fields.mapM fun f => do return (f.key, ← (rootValue registry vars f).run)

theorem executeFields_eq (registry : Registry) (vars : Variables) (fields : List Field) :
    executeFields registry vars fields = do return .ofOutcomes (← outcomes registry vars fields) := by
  have hfrom (a : Answer) : (fields.foldlM (fun a f => do return a.add f.key (← (rootValue registry vars f).run)) a :
      Program Backend Answer) =
        do return (← outcomes registry vars fields).foldl (fun a o => a.add o.1 o.2) a := by
    induction fields generalizing a with
    | nil => rfl
    | cons f fields ih =>
      rw [List.foldlM_cons, outcomes, List.mapM_cons]
      simp only [bind_assoc, pure_bind, List.foldl_cons, ih]
      rfl
  exact hfrom _

/-- Each outcome is under the key of its field. -/
theorem keys_outcomes {σ : Type} (answer : (c : Backend.Call) → σ → Backend.Reply c × σ) (registry : Registry)
    (vars : Variables) (fields : List Field) (s : σ) :
    (Program.run answer (outcomes registry vars fields) s).1.map (·.1) = fields.map Field.key := by
  induction fields generalizing s with
  | nil => rfl
  | cons f fields ih =>
    have hcons : outcomes registry vars (f :: fields) =
        (rootValue registry vars f).run.bind fun r => (outcomes registry vars fields).bind fun os =>
          .done ((f.key, r) :: os) := by
      rw [outcomes, List.mapM_cons, outcomes]
      simp only [bind_assoc, pure_bind]
      rfl
    rw [hcons, Program.run_bind, Program.run_bind]
    simp only [Program.run_done, List.map_cons, ih]

/-- A document that is executed is answered with the outcomes of its root fields. -/
theorem run_execute {σ : Type} (answer : (c : Backend.Call) → σ → Backend.Reply c × σ) (registry : Registry)
    (vars : Variables) {text : String} {operation : Option String} {fields : List Field}
    (hplan : plan text operation = .ok fields) (s : σ) :
    Program.run answer (execute registry vars text operation) s =
      (.ok (.ofOutcomes (Program.run answer (outcomes registry vars fields) s).1),
        (Program.run answer (outcomes registry vars fields) s).2) := by
  unfold execute
  rw [hplan]
  simp only [executeFields_eq, bind_assoc, pure_bind]
  exact Program.run_bind answer _ _ s

/-- An answer lists errors only if there are any. -/
theorem Answer.field?_errors (a : Answer) :
    a.toJson.field? "errors" =
      if a.failures = [] then none else some (.arr (a.failures.map FieldFailure.toJson)) := by
  obtain ⟨data, failures⟩ := a
  cases failures with
  | nil => rfl
  | cons f failures => rfl

/-- A failure is beside a null unless the last field of its key has a value. -/
theorem Answer.Collects.null_iff {os : Outcomes} {a : Answer} (h : Collects os a) {f : FieldFailure}
    (hf : f ∈ os.failures) :
    Json.findField? a.data f.key = some .null ↔ ∀ v, os.last? f.key = some (.ok v) → v = .null := by
  have hkey : f.key ∈ os.map (·.1) := List.mem_map.2 ⟨_, (os.mem_failures_iff f).1 hf, rfl⟩
  obtain ⟨r, hr⟩ := Option.isSome_iff_exists.1 ((os.last?_isSome_iff f.key).2 hkey)
  rw [h.data, hr]
  cases r with
  | ok v => simp [shown]
  | error e => simp [shown]

/-- **An error is beside a null unless a later field of the same key has a value.** Whatever answers the calls, a
document that is executed has an outcome for each root field. Its data has the key of each of them, once, with what the
last field of that key came to, null if it failed. Its errors are the failures in the order of the fields, each under
the path of its key, and there is no member for errors when no field failed. So all errors are beside nulls exactly when
no field that failed has a value under its key from a later one, and in particular when the keys are apart. -/
theorem errors_beside_nulls {σ : Type} (answer : (c : Backend.Call) → σ → Backend.Reply c × σ) (registry : Registry)
    (vars : Variables) (text : String) (operation : Option String) (s s' : σ) (a : Answer)
    (h : Program.run answer (execute registry vars text operation) s = (.ok a, s')) :
    ∃ fields os, plan text operation = .ok fields ∧
      Program.run answer (outcomes registry vars fields) s = (os, s') ∧ os.map (·.1) = fields.map Field.key ∧
      a.Collects os ∧ (∀ f ∈ fields, f.key ∈ Assoc.keys a.data) ∧
      a.toJson.field? "data" = some (.obj a.data) ∧
      a.toJson.field? "errors" =
        (if os.failures = [] then none else some (.arr (os.failures.map FieldFailure.toJson))) ∧
      (∀ f ∈ os.failures, f.toJson.field? "path" = some (.arr [.str f.key])) ∧
      ((∀ f ∈ os.failures, Json.findField? a.data f.key = some .null) ↔
        ∀ f ∈ os.failures, ∀ v, os.last? f.key = some (.ok v) → v = .null) ∧
      ((fields.map Field.key).Nodup → ∀ f ∈ os.failures, Json.findField? a.data f.key = some .null) := by
  cases hplan : plan text operation with
  | error fault =>
    unfold execute at h
    rw [hplan] at h
    cases h
  | ok fields =>
    rw [run_execute answer registry vars hplan] at h
    obtain ⟨ha, rfl⟩ := Prod.mk.inj h
    obtain rfl := Except.ok.inj ha
    have hkeys := keys_outcomes answer registry vars fields s
    generalize hos : (Program.run answer (outcomes registry vars fields) s).1 = os at hkeys
    have hcollects := Answer.collects_ofOutcomes os
    refine ⟨fields, os, rfl, Prod.ext hos rfl, hkeys, hcollects, fun f hf => ?_, rfl, ?_, fun _ _ => rfl, ?_,
      fun hnodup f hf => ?_⟩
    · have hlast : (os.last? f.key).isSome = true := by
        rw [os.last?_isSome_iff, hkeys]
        exact List.mem_map_of_mem hf
      rw [← not_not (a := f.key ∈ _), ← Assoc.get?_eq_none_iff, ← Json.findField?_eq_get?, hcollects.data,
        Option.map_eq_none_iff]
      exact Option.isSome_iff_ne_none.1 hlast
    · rw [Answer.field?_errors, hcollects.failures]
    · exact forall₂_congr fun f hf => hcollects.null_iff hf
    · refine (hcollects.null_iff hf).2 fun v hv => ?_
      rw [← hkeys] at hnodup
      rw [Outcomes.last?_of_nodup hnodup ((os.mem_failures_iff f).1 hf)] at hv
      cases hv

/-- A query for the node of an id that is misspelled and for that of the first widget, each under a key. -/
def nodesText (first second : String) : String :=
  "\x7b " ++ first ++ ": node(id: \"x\") \x7b pk \x7d " ++ second ++ ": node(id: \"V2lkZ2V0OjE=\") \x7b pk \x7d \x7d"

/-- Its fields. -/
def nodesFields (first second : String) : List Field :=
  [⟨some first, "node", [("id", .str "x")], [⟨none, "pk"⟩]⟩,
    ⟨some second, "node", [("id", .str "V2lkZ2V0OjE=")], [⟨none, "pk"⟩]⟩]

/-- What the loaded widgets answer. -/
def answerLoaded (text : String) : Except DocumentFault Answer :=
  (World.exec .widgets Moment.counted (execute .widgets [] text none) World.loaded).1

/-- Under keys of their own, the misspelled id is null and has an error, and the widget is shown. -/
theorem errors_beside_nulls_loaded :
    ∃ a, answerLoaded (nodesText "a" "b") = .ok a ∧ a.failures.map (·.key) = ["a"] ∧
      ∀ f ∈ a.failures, Json.findField? a.data f.key = some .null := by
  have hplan : plan (nodesText "a" "b") none = .ok (nodesFields "a" "b") := by decide +kernel
  have hrun := run_execute (World.answer .widgets Moment.counted) .widgets [] hplan World.loaded
  refine ⟨_, congrArg Prod.fst hrun, by decide +kernel, fun f hf => ?_⟩
  obtain ⟨fields, os, hfields, -, -, hcollects, -, -, -, -, -, hnull⟩ := errors_beside_nulls _ _ _ _ _ _ _ _ hrun
  obtain rfl := Except.ok.inj (hplan.symm.trans hfields)
  rw [hcollects.failures] at hf
  exact hnull (by decide) f hf

/-- **Under one key the error is beside a value**: the widget takes the place of the null. -/
theorem error_beside_value :
    ∃ a, answerLoaded (nodesText "a" "a") = .ok a ∧ a.failures.map (·.key) = ["a"] ∧
      ((Json.findField? a.data "a").bind fun v => (v.field? "pk").bind Json.int?) = some 1 ∧
      ¬∀ f ∈ a.failures, Json.findField? a.data f.key = some .null := by
  have hplan : plan (nodesText "a" "a") none = .ok (nodesFields "a" "a") := by decide +kernel
  have hrun := run_execute (World.answer .widgets Moment.counted) .widgets [] hplan World.loaded
  refine ⟨_, congrArg Prod.fst hrun, ?_⟩
  generalize ha : Answer.ofOutcomes _ = a
  have hfailed : a.failures.map (·.key) = ["a"] := by
    rw [← ha]
    decide +kernel
  have hvalue : ((Json.findField? a.data "a").bind fun v => (v.field? "pk").bind Json.int?) = some 1 := by
    rw [← ha]
    decide +kernel
  refine ⟨hfailed, hvalue, fun hnull => ?_⟩
  obtain ⟨f, hf, hkey⟩ := List.mem_map.1 (hfailed ▸ List.mem_singleton_self "a")
  rw [← hkey, hnull f hf] at hvalue
  cases hvalue

end Graph

end RowIdentity
