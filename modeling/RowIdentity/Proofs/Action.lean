import RowIdentity.Memory
import RowIdentity.Resolution

/-!
# Running actions on a database

* `World.run_bind`, `World.run_lift` — an action is run piece by piece;
* `Action.Reads a f` — `a` only looks at the database: its result is `f` of the stored state and the flag, and
  nothing is left behind but the number of calls;
* `Action.Moves R a` — `a` leads from each state to one that `R` relates to it;
* `World.run_keeps` — what every reply leaves true of the stored state, a whole run leaves true.

`Reads` and `Moves` have one rule for each way to build an action, so that what a resolver reads and where a job leads
are put together from what their calls do.
-/

namespace RowIdentity

variable {α β γ δ : Type} {registry : Registry} {moments : Nat → Moment}

/-! ## Actions as a monad -/

instance : LawfulMonad Action := inferInstanceAs (LawfulMonad (ExceptT IdError (Program Backend)))

/-- To catch an error only to throw it again changes nothing. -/
theorem Action.tryCatch_throw (a : Action α) (h : IdError → Action α) (hh : ∀ e, h e = throw e) :
    tryCatch a h = a := by
  apply ExceptT.ext
  rw [ExceptT.run_tryCatch]
  refine Eq.trans ?_ (bind_pure a.run)
  congr 1
  funext r
  cases r with
  | ok x => rfl
  | error e => simp only [hh e, ExceptT.run_throw]

namespace World

/-- The public id flag of a database. -/
def flag (w : World) : Bool := w.flags.isOn publicIdFlag

/-! ## A run, piece by piece -/

@[simp] theorem run_pure (a : α) (w : World) : run registry moments (pure a) w = (.ok a, w) := rfl

@[simp] theorem run_throw (e : IdError) (w : World) :
    run registry moments (throw e : Action α) w = (.error e, w) := rfl

@[simp] theorem run_result (r : IdResult α) (w : World) :
    run registry moments (liftM r : Action α) w = (r, w) := rfl

/-- Runs a program on a database, with no regard to errors. -/
def exec (registry : Registry) (moments : Nat → Moment) (p : Program Backend γ) (w : World) : γ × World :=
  p.run (answer registry moments) w

theorem run_eq (a : Action α) (w : World) : run registry moments a w = exec registry moments a.run w := rfl

theorem exec_bind (p : Program Backend γ) (f : γ → Program Backend δ) (w : World) :
    exec registry moments (p >>= f) w =
      exec registry moments (f (exec registry moments p w).1) (exec registry moments p w).2 :=
  Program.run_bind _ p f w

/-- A program that may fail goes on as long as it does not. -/
theorem exec_run_bind {ε : Type} (a : ExceptT ε (Program Backend) γ) (f : γ → ExceptT ε (Program Backend) δ)
    (w : World) :
    exec registry moments (a >>= f).run w =
      match exec registry moments a.run w with
      | (.ok x, w') => exec registry moments (f x).run w'
      | (.error e, w') => (.error e, w') := by
  rw [ExceptT.run_bind, exec_bind]
  rcases exec registry moments a.run w with ⟨_ | _, w'⟩
  · rfl
  · rfl

theorem run_bind (a : Action α) (f : α → Action β) (w : World) :
    run registry moments (a >>= f) w =
      match run registry moments a w with
      | (.ok x, w') => run registry moments (f x) w'
      | (.error e, w') => (.error e, w') := by
  rw [run_eq, exec_run_bind, run_eq a]
  rcases exec registry moments a.run w with ⟨_ | _, w'⟩
  · rfl
  · rfl

theorem run_map_result (f : α → β) (r : IdResult α) (w : World) :
    run registry moments (f <$> (liftM r : Action α)) w = (f <$> r, w) := by
  cases r <;> rfl

/-- A run of two parts ends well when both parts do. -/
theorem run_bind_eq_ok_iff (a : Action α) (f : α → Action β) (w w'' : World) (y : β) :
    run registry moments (a >>= f) w = (.ok y, w'') ↔
      ∃ x w', run registry moments a w = (.ok x, w') ∧ run registry moments (f x) w' = (.ok y, w'') := by
  rw [run_bind]
  rcases run registry moments a w with ⟨e | x, w'⟩
  · simp
  · simp [and_assoc]

/-- A program whose faults are looked at rather than passed on. -/
theorem run_lift (p : Program Backend γ) (w : World) :
    run registry moments (ExceptT.lift p) w =
      (.ok (exec registry moments p w).1, (exec registry moments p w).2) := by
  rw [run_eq, ExceptT.run_lift, map_eq_pure_bind, exec_bind]
  rfl

/-- The database after a call that changes nothing. -/
def tick (w : World) : World := { w with calls := w.calls + 1 }

@[simp] theorem memory_tick (w : World) : w.tick.memory = w.memory := rfl

@[simp] theorem calls_tick (w : World) : w.tick.calls = w.calls + 1 := rfl

@[simp] theorem flags_tick (w : World) : w.tick.flags = w.flags := rfl

@[simp] theorem flag_tick (w : World) : w.tick.flag = w.flag := rfl

@[simp] theorem run_publicIdEnabled (w : World) :
    run registry moments publicIdEnabled w = (.ok w.flag, w.tick) := rfl

@[simp] theorem run_row (ty : String) (pk : Int64) (w : World) :
    run registry moments (liftM (Store.row ty pk)) w = (.ok (w.memory.row? ty pk), w.tick) := rfl

@[simp] theorem run_entryOf (ty : String) (pk : Int64) (w : World) :
    run registry moments (liftM (Store.entryOf ty pk)) w = (.ok (w.memory.mappings.entryOf? ty pk), w.tick) := rfl

@[simp] theorem run_currentScheme (model : Model) (w : World) :
    run registry moments (currentScheme model) w = (.ok (model.scheme w.flag), w.tick) := rfl

theorem run_entryOrNew (ty : String) (pk : Int64) (w : World) :
    run registry moments (liftM (Store.entryOrNew ty pk)) w =
      ((Memory.entryOrNew (moments w.calls) w.memory ty pk).1.mapError Fault.toError,
        { w with memory := (Memory.entryOrNew (moments w.calls) w.memory ty pk).2, calls := w.calls + 1 }) := rfl

/-- The id of a row; under the Public-ID scheme that of its entry, which is made when it is missing. -/
theorem run_idOf (scheme : IdScheme) (r : Row) (w : World) :
    run registry moments (scheme.idOf r) w =
      match scheme with
      | .legacy => (.ok (.legacy r.pk), w)
      | .pk => (.ok (.pk r.pk), w)
      | .publicId =>
        (((Memory.entryOrNew (moments w.calls) w.memory r.entityType r.pk).1.mapError Fault.toError).map
            (.publicId ·.publicId),
          { w with
            memory := (Memory.entryOrNew (moments w.calls) w.memory r.entityType r.pk).2
            calls := w.calls + 1 }) := by
  cases scheme with
  | legacy => rfl
  | pk => rfl
  | publicId =>
    simp only [IdScheme.idOf, run_bind, run_entryOrNew]
    cases (Memory.entryOrNew (moments w.calls) w.memory r.entityType r.pk).1 with
    | error f => rfl
    | ok e => rfl

/-! ## What every run keeps -/

/-- A property that no call breaks is left true by every action. -/
theorem run_keeps {I : Memory → Prop}
    (hI : ∀ flag t c m, I m → I (Memory.answer registry flag t c m).2) (a : Action α) {w : World}
    (hw : I w.memory) : I (run registry moments a w).2.memory := by
  unfold run
  generalize a.run = p
  induction p generalizing w with
  | done r => exact hw
  | call c next ih => exact ih _ (hI _ _ c _ hw)

/-- No action flips a flag. -/
theorem flags_run (a : Action α) (w : World) : (run registry moments a w).2.flags = w.flags := by
  unfold run
  generalize a.run = p
  induction p generalizing w with
  | done r => rfl
  | call c next ih => exact ih _ _

theorem flags_of_run {a : Action α} {w w' : World} {x : IdResult α} (h : run registry moments a w = (x, w')) :
    w'.flags = w.flags := by
  have hflags : (run registry moments a w).2.flags = w.flags := flags_run a w
  rwa [h] at hflags

theorem flag_of_run {a : Action α} {w w' : World} {x : IdResult α} (h : run registry moments a w = (x, w')) :
    w'.flag = w.flag :=
  congrArg (RuntimeFlags.isOn · publicIdFlag) (flags_of_run h)

end World

/-! ## Actions that only look -/

/-- The action changes nothing, and its result is a function of the stored state and the flag. -/
def Action.Reads (a : Action α) (f : Memory → Bool → IdResult α) : Prop :=
  ∀ (registry : Registry) (moments : Nat → Moment) (w : World),
    ∃ n, World.run registry moments a w = (f w.memory w.flag, { w with calls := n })

namespace Action.Reads

variable {a : Action α} {f : Memory → Bool → IdResult α}

theorem pure (x : α) : Reads (Pure.pure x) fun _ _ => .ok x := fun _ _ w => ⟨w.calls, rfl⟩

theorem throw (e : IdError) : Reads (MonadExcept.throw e : Action α) fun _ _ => .error e :=
  fun _ _ w => ⟨w.calls, rfl⟩

theorem result (r : IdResult α) : Reads (liftM r) fun _ _ => r := fun _ _ w => ⟨w.calls, rfl⟩

theorem publicIdEnabled : Reads publicIdEnabled fun _ flag => .ok flag := fun _ _ w => ⟨w.calls + 1, rfl⟩

theorem row (ty : String) (pk : Int64) : Reads (liftM (Store.row ty pk)) fun m _ => .ok (m.row? ty pk) :=
  fun _ _ w => ⟨w.calls + 1, rfl⟩

theorem entryById (u : Uuid) :
    Reads (liftM (Store.entryById u)) fun m _ => .ok (m.mappings.entryById? u) := fun _ _ w => ⟨w.calls + 1, rfl⟩

theorem bind {k : α → Action β} {g : α → Memory → Bool → IdResult β} (ha : Reads a f)
    (hk : ∀ x, Reads (k x) (g x)) : Reads (a >>= k) fun m flag => f m flag >>= fun x => g x m flag := by
  intro registry moments w
  obtain ⟨n, hn⟩ := ha registry moments w
  rw [World.run_bind, hn]
  change ∃ n, _ = (f w.memory w.flag >>= fun x => g x w.memory w.flag, _)
  generalize f w.memory w.flag = r
  cases r with
  | error e => exact ⟨n, rfl⟩
  | ok x => exact hk x registry moments { w with calls := n }

theorem ite {c : Prop} [Decidable c] {b : Action α} {g : Memory → Bool → IdResult α} (ha : Reads a f)
    (hb : Reads b g) : Reads (if c then a else b) fun m flag => if c then f m flag else g m flag := by
  split
  · exact ha
  · exact hb

theorem congr {g : Memory → Bool → IdResult α} (ha : Reads a f) (h : ∀ m flag, f m flag = g m flag) : Reads a g := by
  have hfg : f = g := by
    funext m flag
    exact h m flag
  exact hfg ▸ ha

/-- The result of a run, which does not hang on the moments. -/
theorem run_fst (h : Reads a f) (w : World) : (World.run registry moments a w).1 = f w.memory w.flag := by
  obtain ⟨n, hn⟩ := h registry moments w
  rw [hn]

end Action.Reads

/-! ## Actions that move along a relation -/

/-- Whatever state the action starts from, it ends in a related one. -/
def Action.Moves (registry : Registry) (moments : Nat → Moment) (R : Memory → Memory → Prop) (a : Action α) : Prop :=
  ∀ w, R w.memory (World.run registry moments a w).2.memory

namespace Action.Moves

variable {R : Memory → Memory → Prop} {a : Action α}

theorem of_reads (hrefl : ∀ m, R m m) {f : Memory → Bool → IdResult α} (h : Reads a f) :
    Moves registry moments R a := by
  intro w
  obtain ⟨n, hn⟩ := h registry moments w
  rw [hn]
  exact hrefl w.memory

theorem bind (htrans : ∀ a b c, R a b → R b c → R a c) {k : α → Action β} (ha : Moves registry moments R a)
    (hk : ∀ x, Moves registry moments R (k x)) : Moves registry moments R (a >>= k) := by
  intro w
  have hfirst := ha w
  rw [World.run_bind]
  generalize World.run registry moments a w = r at hfirst
  obtain ⟨_ | x, w'⟩ := r
  · exact hfirst
  · exact htrans _ _ _ hfirst (hk x w')

/-- A list of actions, one after another. -/
theorem mapM (hrefl : ∀ m, R m m) (htrans : ∀ a b c, R a b → R b c → R a c) {k : β → Action α} {xs : List β}
    (hk : ∀ x ∈ xs, Moves registry moments R (k x)) : Moves registry moments R (xs.mapM k) := by
  induction xs with
  | nil => exact of_reads hrefl (.pure _)
  | cons x xs ih =>
    rw [List.mapM_cons]
    refine bind htrans (hk x List.mem_cons_self) fun _ => ?_
    refine bind htrans (ih fun y hy => hk y (List.mem_cons_of_mem _ hy)) fun _ => ?_
    exact of_reads hrefl (.pure _)

end Action.Moves

end RowIdentity
