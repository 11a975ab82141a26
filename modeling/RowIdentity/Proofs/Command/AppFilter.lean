import RowIdentity.Proofs.Backfill.DryRun
import RowIdentity.Proofs.Command.Success
import RowIdentity.Proofs.ExternalId
import RowIdentity.Proofs.Text.Lowercase

/-!
# The filter by app and the look-up by app and model

A model is looked up by its app and name in any case, while a filter by app compares the label as it is spelled.

* `Model.Described` — a model that begins with its names, as every model does;
* `Model.Described.labelled` — its labels are lowercase, and its entity type is made of both;
* `Registry.underApp` — the models that are found under an app and their own name;
* `backfillTargets_some` — **the filter selects these when the app is spelled in lowercase, and else nothing**;
* `Command.mem_targets_iff` — which models that the command accepts under an app it covers by the app alone;
* `appFilter_exact`, `appFilter_misses` — what a backfill of an app does, and a spelling that selects no model.
-/

namespace RowIdentity

variable {registry : Registry} {m : Model}

/-! ## Labels -/

namespace Model

/-- The model begins with its names and is added to. -/
inductive Described : Model → Prop
  | named (appLabel name : String) : Described (.named appLabel name)
  | withEligibility {m : Model} (e : Eligibility) : Described m → Described (m.withEligibility e)
  | withKeyKind {m : Model} (k : KeyKind) : Described m → Described (m.withKeyKind k)
  | withPlural {m : Model} (plural : String) : Described m → Described (m.withPlural plural)
  | withTable {m : Model} (table : String) : Described m → Described (m.withTable table)
  | withGraph {m : Model} (t : GraphType) : Described m → Described (m.withGraph t)

/-- The labels are lowercase, and the entity type is made of both. -/
structure Labelled (m : Model) : Prop where
  appLabel : Lowercase.ofText m.appLabel = m.appLabel
  name : Lowercase.ofText m.name = m.name
  entityType : m.entityType = m.appLabel ++ "." ++ m.name

theorem Described.labelled (h : m.Described) : m.Labelled := by
  induction h with
  | named appLabel name => exact ⟨Lowercase.ofText_ofText appLabel, Lowercase.ofText_ofText name, rfl⟩
  | withEligibility e _ ih =>
    unfold Model.withEligibility
    split
    · exact ih
    · exact ⟨ih.appLabel, ih.name, ih.entityType⟩
  | withKeyKind k _ ih => exact ⟨ih.appLabel, ih.name, ih.entityType⟩
  | withPlural plural _ ih => exact ⟨ih.appLabel, ih.name, ih.entityType⟩
  | withTable table _ ih => exact ⟨ih.appLabel, ih.name, ih.entityType⟩
  | withGraph t _ ih => exact ⟨ih.appLabel, ih.name, ih.entityType⟩

end Model

/-- A text that is joined of two at a dot falls apart in one way only, if the second part has no dot. -/
theorem eq_of_append_dot {a a' n n' : String} (hn : '.' ∉ n.toList) (hn' : '.' ∉ n'.toList)
    (h : a ++ "." ++ n = a' ++ "." ++ n') : a = a' := by
  have hsplit {b k : String} (hk : '.' ∉ k.toList) :
      splitOnce '.' (b ++ "." ++ k).toList.reverse = some (k.toList.reverse, b.toList.reverse) :=
    (splitOnce_eq_some_iff _ _ _ _).2 ⟨by simp, by simpa using hk⟩
  have hparts := hsplit (b := a) hn
  rw [h, hsplit hn'] at hparts
  obtain ⟨-, happ⟩ := Prod.mk.inj (Option.some.inj hparts)
  exact String.toList_inj.1 (List.reverse_injective happ).symm

/-! ## Models of an app -/

/-- The models that track public ids and are found under an app and their own name, in the order of registration. -/
def Registry.underApp (r : Registry) (app : String) : List Model :=
  r.models.filter fun m => m.tracksPublicIds && decide (r.byNames? app m.name = some m)

/-- A registered model is found under an app and its own name if its label is the lowercase of the app. -/
theorem Registry.Indexed.byNames?_name_iff (h : registry.Indexed) (hm : m ∈ registry.models) (hlabels : m.Labelled)
    (app : String) : registry.byNames? app m.name = some m ↔ Lowercase.ofText app = m.appLabel := by
  rw [Registry.byNames?, hlabels.name, h.get?_eq_some_iff, hlabels.entityType]
  constructor
  · rintro ⟨-, happ⟩
    rw [String.append_assoc, String.append_assoc] at happ
    exact (String.append_left_inj _).1 happ.symm
  · intro happ
    exact ⟨hm, by rw [happ]⟩

theorem mem_backfillTargets_some_iff (app : String) :
    m ∈ backfillTargets registry (some app) ↔ m ∈ registry.models ∧ m.tracksPublicIds = true ∧ app = m.appLabel := by
  simp [backfillTargets, and_comm]

/-- **A filter selects the models under its app when the app is spelled in lowercase, and else none.** -/
theorem backfillTargets_some (hreg : registry.Indexed) (hlabels : ∀ m ∈ registry.models, m.Labelled) (app : String) :
    backfillTargets registry (some app) = if Lowercase.ofText app = app then registry.underApp app else [] := by
  split
  next happ =>
    refine List.filter_congr fun m hm => ?_
    rw [Bool.and_comm]
    congr 1
    refine decide_eq_decide.2 ?_
    rw [hreg.byNames?_name_iff hm (hlabels m hm), happ]
  next happ =>
    refine List.eq_nil_iff_forall_not_mem.2 fun m hm => ?_
    obtain ⟨hm, -, hlabel⟩ := (mem_backfillTargets_some_iff app).1 hm
    refine happ ?_
    rw [hlabel, (hlabels m hm).appLabel]

/-! ## The command -/

/-- A model that the command accepts under an app and a name is covered by the app alone if the app is its label. Where
no name has a dot, this is a question of how the app is spelled. -/
theorem Command.mem_targets_iff (hreg : registry.Indexed) (hlabels : ∀ m ∈ registry.models, m.Labelled)
    {app name : String} (hm : m ∈ (Selection.model app name).targets registry) (htracks : m.tracksPublicIds = true) :
    (m ∈ (Selection.models (some app)).targets registry ↔ app = m.appLabel) ∧
      ('.' ∉ m.name.toList → '.' ∉ (Lowercase.ofText name).toList → m.appLabel = Lowercase.ofText app) := by
  obtain ⟨hmem, hentity⟩ := (hreg.get?_eq_some_iff _ m).1 (Option.mem_toList.1 hm)
  refine ⟨?_, fun hdot hdot' => ?_⟩
  · refine (mem_backfillTargets_some_iff app).trans ⟨fun h => h.2.2, fun happ => ⟨hmem, htracks, happ⟩⟩
  · rw [(hlabels m hmem).entityType] at hentity
    exact eq_of_append_dot hdot hdot' hentity

/-- **What a backfill of an app does.** If the app is spelled in lowercase, it goes through the models that track public
ids and are found under the app and their own name, in the order of registration, over whatever store; in a database
without other clients it ends with a report for each of them. Under any other spelling it goes through no model, and
ends well. So a model that the command accepts under an app and a name is covered by the app alone exactly if the app is
the label of the model, to the letter; where no name has a dot, that label is the lowercase of the app. -/
theorem appFilter_exact (hreg : registry.Built) (hmodels : ∀ m ∈ registry.models, m.Described) {batchSize : Nat}
    (hbatch : 0 < batchSize) (dryRun : Bool) (app : String) :
    let covered := if Lowercase.ofText app = app then registry.underApp app else []
    backfillAll registry dryRun batchSize (some app) = covered.mapM (backfillModel dryRun batchSize) ∧
      (∀ moments w, Memory.Reachable registry w.memory →
        (dryRun = false → w.Fresh registry moments (backfillAll registry false batchSize (some app)).run) →
        (World.run registry moments (backfillAll registry dryRun batchSize (some app)) w).1 =
          .ok (covered.map fun m => w.memory.backfillReport m.entityType batchSize dryRun)) ∧
      ∀ name, ∀ m ∈ (Command.Selection.model app name).targets registry, m.tracksPublicIds = true →
        (m ∈ (Command.Selection.models (some app)).targets registry ↔ app = m.appLabel) ∧
          ('.' ∉ m.name.toList → '.' ∉ (Lowercase.ofText name).toList → m.appLabel = Lowercase.ofText app) := by
  intro covered
  have hindexed := hreg.indexed
  have hlabels : ∀ m ∈ registry.models, m.Labelled := fun m hm => (hmodels m hm).labelled
  have htargets : backfillTargets registry (some app) = covered := backfillTargets_some hindexed hlabels app
  refine ⟨?_, fun moments w hw hfresh => ?_,
    fun name m hm htracks => Command.mem_targets_iff hindexed hlabels hm htracks⟩
  · rw [backfillAll_eq hbatch, htargets]
  · rw [backfillAll_eq hbatch] at hfresh ⊢
    obtain ⟨w', hrun⟩ := World.exists_backfillModels_alone registry moments dryRun
      (fun _ => tracksPublicIds_of_mem_backfillTargets) (nodup_backfillTargets hindexed (some app)) hbatch hw.regular
      hfresh
    rw [hrun, htargets]

theorem Registry.described_widget : widget.Described := by
  have hwidget : widget = ((Model.named "Shop" "Widget").withEligibility .publicId).withGraph (.node "Widget") := by
    decide +kernel
  rw [hwidget]
  exact .withGraph _ (.withEligibility _ (.named _ _))

/-- The two widgets of the shop get their entries, and the model is covered by its app. -/
theorem appFilter_exact_shop :
    (World.run .widgets .counted (backfillAll .widgets false 1 (some "shop")) World.loaded).1 =
        .ok [⟨"shop.widget", 2, 2, 2, 0, 0, [], false⟩] ∧
      Registry.widget ∈ (Command.Selection.models (some "shop")).targets .widgets := by
  have hmodels : ∀ m ∈ Registry.widgets.models, m.Described :=
    List.forall_mem_singleton.2 Registry.described_widget
  have hids : World.loaded.Fresh .widgets .counted (backfillAll .widgets false 1 (some "shop")).run :=
    Program.throughout_of_all (by decide +kernel)
  have hfound : Registry.widget ∈ (Command.Selection.model "shop" "Widget").targets .widgets := by decide +kernel
  obtain ⟨-, hrun, hcovers⟩ := appFilter_exact Registry.built_widgets hmodels Nat.one_pos false "shop"
  refine ⟨(hrun .counted World.loaded Memory.reachable_loaded fun _ => hids).trans ?_, ?_⟩
  · decide +kernel
  · exact (hcovers "Widget" Registry.widget hfound rfl).1.2 rfl

/-- **A spelling that selects no model**: widgets are found in the app `Shop` and track public ids, but a backfill of
this app leaves them out, and ends well. -/
theorem appFilter_misses :
    Registry.widgets.byNames? "Shop" Registry.widget.name = some Registry.widget ∧
      Registry.widget.tracksPublicIds = true ∧
      World.run .widgets .counted (backfillAll .widgets false 1 (some "Shop")) World.loaded =
        (.ok [], World.loaded) := by
  refine ⟨by decide +kernel, rfl, ?_⟩
  have hnone : backfillTargets .widgets (some "Shop") = [] := by decide +kernel
  rw [backfillAll_eq Nat.one_pos, hnone]
  rfl

end RowIdentity
