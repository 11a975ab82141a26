import RowIdentity.Disturbance
import RowIdentity.Proofs.Concurrency.Backfill

/-!
# A database whose calls may fail

* `Disturbance.OnlyFails`, `Disturbance.Fails` — a disturbance that makes calls fail and does nothing else, and the
  calls that are due to fail;
* `Disturbed.answer_of_not_fails`, `Disturbed.answer_of_fails` — **a call that fails leaves the database as it was**;
* `Disturbed.exec`, `Disturbed.steps` — runs of programs, piece by piece, and their calls.
-/

namespace RowIdentity

/-! ## Calls that fail -/

/-- Calls may fail, but keys are always listed; and nothing else disturbs the database. -/
structure Disturbance.OnlyFails (d : Disturbance) : Prop where
  phantoms : d.phantoms = []
  steal : d.steal = []
  keys : ∀ n, (.keys, n) ∉ d.failures

/-- The call is due to fail. -/
def Disturbance.Fails (d : Disturbance) (c : BackendCall) (s : Disturbed) : Bool :=
  c.kind?.any fun kind => d.failures.contains (kind, s.seen.count kind)

theorem Disturbance.onlyFails_none : Disturbance.none.OnlyFails := ⟨rfl, rfl, by simp [none]⟩

theorem Disturbance.fails_none (c : BackendCall) (s : Disturbed) : Disturbance.none.Fails c s = false := by
  unfold Fails
  cases c.kind? with
  | none => rfl
  | some kind => rfl

namespace Disturbed

variable {registry : Registry} {moments : Nat → Moment} {d : Disturbance} {s : Disturbed} {w : World} {c : BackendCall}

variable (registry moments) in
/-- Without others the database replies by itself. -/
theorem beside_eq (hd : d.OnlyFails) (hw : w.memory.Regular) (c : BackendCall) :
    beside registry moments d c w = w.answer registry moments c := by
  cases c with
  | keys ty after limit =>
    have hpage : ((w.memory.keys ty after limit ++ []).mergeSort fun a b => a ≤ b).take limit =
        w.memory.keys ty after limit := by
      rw [List.append_nil, List.mergeSort_of_pairwise, List.take_of_length_le]
      · exact List.length_take_le _ _
      · exact (hw.pairwise_keys ty after limit).imp fun hlt => decide_eq_true (Int64.le_of_lt hlt)
    simp only [beside, hd.phantoms, List.filter_nil]
    exact Prod.ext (congrArg Except.ok hpage) rfl
  | insertEntries es =>
    have hsteal : ∀ w, es.foldl (stealEntry registry moments d) w = w := by
      induction es with
      | nil => exact fun _ => rfl
      | cons e es ih =>
        intro w
        have hfirst : stealEntry registry moments d w e = w := by simp [stealEntry, hd.steal]
        rw [List.foldl_cons, hfirst, ih]
    simp only [beside, hsteal]
  | _ => rfl

variable (registry moments) in
/-- A call that does not fail is answered as ever, and its kind is noted. -/
theorem answer_of_not_fails (hd : d.OnlyFails) (hs : s.world.memory.Regular) (hc : d.Fails c s = false) :
    answer registry moments d c s =
      ((s.world.answer registry moments c).1, ⟨(s.world.answer registry moments c).2, c.kind?.toList ++ s.seen⟩) := by
  have hdue : (c.kind?.filter fun kind => d.failures.contains (kind, s.seen.count kind)) = none := by
    unfold Disturbance.Fails at hc
    cases hkind : c.kind? with
    | none => rfl
    | some kind =>
      rw [hkind] at hc
      exact Option.filter_eq_none_iff.2 fun k hk => by obtain rfl := Option.some.inj hk; simpa using hc
  simp only [answer, hdue, Option.bind_none, beside_eq registry moments hd hs]

variable (registry moments) in
/-- **A call that fails leaves the database as it was**; its kind is noted. -/
theorem answer_of_fails {kind : CallKind} {reply : c.Reply} (hkind : c.kind? = some kind)
    (hreply : c.failed (lostConnection kind) = some reply) (hc : d.Fails c s = true) :
    answer registry moments d c s = (reply, { s with seen := kind :: s.seen }) := by
  rw [Disturbance.Fails, hkind] at hc
  have hdue : ((some kind).filter fun kind => d.failures.contains (kind, s.seen.count kind)) = some kind :=
    Option.filter_eq_some_iff.2 ⟨rfl, hc⟩
  simp only [answer, hkind, hdue, Option.bind_some, hreply, Option.toList_some, List.singleton_append]

/-! ## Runs, piece by piece -/

section

variable {α β ε : Type}

/-- Runs a program on a disturbed database, with no regard to errors. -/
def exec (registry : Registry) (moments : Nat → Moment) (d : Disturbance) (p : Program Backend α) (s : Disturbed) :
    α × Disturbed := p.run (answer registry moments d) s

/-- The calls of a run, each with the state in which it is answered. -/
def steps (registry : Registry) (moments : Nat → Moment) (d : Disturbance) (p : Program Backend α) (s : Disturbed) :
    List (BackendCall × Disturbed) := p.steps (answer registry moments d) s

theorem exec_bind (p : Program Backend α) (f : α → Program Backend β) (s : Disturbed) :
    exec registry moments d (p >>= f) s =
      exec registry moments d (f (exec registry moments d p s).1) (exec registry moments d p s).2 :=
  Program.run_bind _ p f s

theorem steps_bind (p : Program Backend α) (f : α → Program Backend β) (s : Disturbed) :
    steps registry moments d (p >>= f) s =
      steps registry moments d p s ++
        steps registry moments d (f (exec registry moments d p s).1) (exec registry moments d p s).2 :=
  Program.steps_bind p f s

/-- A program that may fail goes on as long as it does not. -/
theorem exec_run_bind (a : ExceptT ε (Program Backend) α) (f : α → ExceptT ε (Program Backend) β) (s : Disturbed) :
    exec registry moments d (a >>= f).run s =
      match exec registry moments d a.run s with
      | (.ok x, s') => exec registry moments d (f x).run s'
      | (.error e, s') => (.error e, s') := by
  rw [ExceptT.run_bind, exec_bind]
  rcases exec registry moments d a.run s with ⟨_ | _, s'⟩
  · rfl
  · rfl

theorem steps_run_bind (a : ExceptT ε (Program Backend) α) (f : α → ExceptT ε (Program Backend) β) (s : Disturbed) :
    steps registry moments d (a >>= f).run s =
      steps registry moments d a.run s ++
        match exec registry moments d a.run s with
        | (.ok x, s') => steps registry moments d (f x).run s'
        | (.error _, _) => [] := by
  rw [ExceptT.run_bind, steps_bind]
  rcases exec registry moments d a.run s with ⟨_ | _, s'⟩
  · rfl
  · rfl

/-- A program whose faults are looked at rather than passed on. -/
theorem exec_lift (p : Program Backend α) (s : Disturbed) :
    exec registry moments d (ExceptT.lift p : ExceptT ε (Program Backend) α).run s =
      (.ok (exec registry moments d p s).1, (exec registry moments d p s).2) :=
  Program.run_except_lift (I := Backend) p s

theorem steps_lift (p : Program Backend α) (s : Disturbed) :
    steps registry moments d (ExceptT.lift p : ExceptT ε (Program Backend) α).run s = steps registry moments d p s :=
  Program.steps_except_lift p s

end

/-- A program that only draws ids is not disturbed. -/
theorem exec_of_stamps {α : Type} {p : Program Backend α} (hp : p.Makes fun c : BackendCall => c = .stamp)
    (s : Disturbed) :
    exec registry moments d p s =
      ((World.exec registry moments p s.world).1, ⟨(World.exec registry moments p s.world).2, s.seen⟩) := by
  induction p generalizing s with
  | done a => rfl
  | call c next ih =>
    obtain ⟨rfl, hnext⟩ := hp
    exact ih _ (hnext _) _

end Disturbed

end RowIdentity
