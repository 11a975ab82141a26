import RowIdentity.Program

/-!
# The calls of a run

* `Program.steps` — the calls that a program makes, each with the state in which it is answered;
* `Program.Throughout` — what holds at every call of a run;
* `Program.steps_except_bind`, `throughout_bind` — a program that may fail goes on as long as it does not;
* `Program.calls`, `run_except_bind_eq_ok` — the calls of a program that ends well are those of its parts;
* `Program.Makes` — what holds of every call that a program may make, whatever the replies.

The service is any one here: a database by itself, or one that others use at the same time.
-/

namespace RowIdentity.Program

variable {I : Interface} {α β ε σ : Type} {answer : (c : I.Call) → σ → I.Reply c × σ} {P : I.Call → σ → Prop}

/-- The calls that a program makes, each with the state in which it is answered. -/
def steps (answer : (c : I.Call) → σ → I.Reply c × σ) : Program I α → σ → List (I.Call × σ)
  | done _, _ => []
  | call c next, s => (c, s) :: (next (answer c s).1).steps answer (answer c s).2

/-- At every call of a run `P` holds of the call and the state in which it is answered. -/
def Throughout (answer : (c : I.Call) → σ → I.Reply c × σ) (P : I.Call → σ → Prop) (p : Program I α) (s : σ) : Prop :=
  ∀ x ∈ p.steps answer s, P x.1 x.2

/-- What holds throughout a run can be computed, where it can be told of a call. -/
theorem throughout_of_all {f : I.Call → σ → Bool} {p : Program I α} {s : σ}
    (h : (p.steps answer s).all (fun x => f x.1 x.2) = true) : p.Throughout answer (fun c s => f c s = true) s :=
  List.all_eq_true.1 h

@[simp] theorem steps_done (a : α) (s : σ) : (done a : Program I α).steps answer s = [] := rfl

@[simp] theorem steps_call (c : I.Call) (next : I.Reply c → Program I α) (s : σ) :
    (call c next).steps answer s = (c, s) :: (next (answer c s).1).steps answer (answer c s).2 := rfl

theorem steps_bind (p : Program I α) (f : α → Program I β) (s : σ) :
    (p.bind f).steps answer s = p.steps answer s ++ (f (p.run answer s).1).steps answer (p.run answer s).2 := by
  induction p generalizing s with
  | done a => rfl
  | call c next ih => simp [ih]

theorem throughout_program_bind (p : Program I α) (f : α → Program I β) (s : σ) :
    Throughout answer P (p.bind f) s ↔
      Throughout answer P p s ∧ Throughout answer P (f (p.run answer s).1) (p.run answer s).2 := by
  unfold Throughout
  rw [steps_bind, List.forall_mem_append]

/-! ## Programs that may fail -/

theorem steps_except_bind (a : ExceptT ε (Program I) α) (f : α → ExceptT ε (Program I) β) (s : σ) :
    steps answer (a >>= f).run s =
      steps answer a.run s ++
        match Program.run answer a.run s with
        | (.ok x, s') => steps answer (f x).run s'
        | (.error _, _) => [] := by
  rw [ExceptT.run_bind]
  refine (steps_bind a.run _ s).trans ?_
  rcases Program.run answer a.run s with ⟨_ | _, s'⟩
  · rfl
  · rfl

/-- A program whose faults are looked at rather than passed on. -/
theorem run_except_lift (p : Program I α) (s : σ) :
    Program.run answer (ExceptT.lift p : ExceptT ε (Program I) α).run s =
      (.ok (p.run answer s).1, (p.run answer s).2) := by
  rw [ExceptT.run_lift, map_eq_pure_bind]
  exact Program.run_bind answer p _ s

theorem steps_except_lift (p : Program I α) (s : σ) :
    steps answer (ExceptT.lift p : ExceptT ε (Program I) α).run s = p.steps answer s := by
  rw [ExceptT.run_lift, map_eq_pure_bind]
  exact (steps_bind p _ s).trans (List.append_nil _)

theorem throughout_bind (a : ExceptT ε (Program I) α) (f : α → ExceptT ε (Program I) β) (s : σ) :
    Throughout answer P (a >>= f).run s ↔
      Throughout answer P a.run s ∧
        ∀ x s', Program.run answer a.run s = (.ok x, s') → Throughout answer P (f x).run s' := by
  unfold Throughout
  rw [steps_except_bind, List.forall_mem_append]
  refine and_congr_right fun _ => ?_
  rcases hrun : Program.run answer a.run s with ⟨e | x, s'⟩
  · simp
  · constructor
    · rintro h y s'' heq
      cases heq
      exact h
    · intro h
      exact h x s' rfl

/-- The calls that a program makes. -/
def calls (answer : (c : I.Call) → σ → I.Reply c × σ) (p : Program I α) (s : σ) : List I.Call :=
  (p.steps answer s).map (·.1)

/-- A program that ends well has ended well in each of its parts. -/
theorem run_except_bind_eq_ok {a : ExceptT ε (Program I) α} {f : α → ExceptT ε (Program I) β} {s s'' : σ} {y : β}
    (h : Program.run answer (a >>= f).run s = (.ok y, s'')) :
    ∃ x s', Program.run answer a.run s = (.ok x, s') ∧ Program.run answer (f x).run s' = (.ok y, s'') ∧
      calls answer (a >>= f).run s = calls answer a.run s ++ calls answer (f x).run s' := by
  have hsteps : steps answer (a >>= f).run s = _ := steps_except_bind a f s
  have hcalls := congrArg (List.map (·.1)) hsteps
  rw [ExceptT.run_bind] at h
  replace h := (Program.run_bind answer a.run _ s).symm.trans h
  rcases hrun : Program.run answer a.run s with ⟨e | x, s'⟩
  · rw [hrun] at h
    cases h
  · rw [hrun] at h hcalls
    exact ⟨x, s', rfl, h, by rw [calls, hcalls, List.map_append]; rfl⟩

/-! ## The calls a program may make -/

/-- Whatever the replies, every call that the program makes satisfies `Q`. -/
def Makes (Q : I.Call → Prop) : Program I α → Prop
  | done _ => True
  | call c next => Q c ∧ ∀ r, (next r).Makes Q

namespace Makes

variable {Q Q' : I.Call → Prop}

theorem throughout {p : Program I α} (h : p.Makes Q) (s : σ) : p.Throughout answer (fun c _ => Q c) s := by
  induction p generalizing s with
  | done a => exact fun _ hx => nomatch hx
  | call c next ih =>
    intro x hx
    rcases List.mem_cons.1 hx with rfl | hx
    · exact h.1
    · exact ih _ (h.2 _) _ x hx

theorem mono {p : Program I α} (hQ : ∀ c, Q c → Q' c) (h : p.Makes Q) : p.Makes Q' := by
  induction p with
  | done a => trivial
  | call c next ih => exact ⟨hQ c h.1, fun r => ih r (h.2 r)⟩

theorem bind {p : Program I α} {f : α → Program I β} (hp : p.Makes Q) (hf : ∀ x, (f x).Makes Q) :
    (p.bind f).Makes Q := by
  induction p with
  | done a => exact hf a
  | call c next ih => exact ⟨hp.1, fun r => ih r (hp.2 r)⟩

theorem except_bind {a : ExceptT ε (Program I) α} {f : α → ExceptT ε (Program I) β} (ha : Makes Q a.run)
    (hf : ∀ x, Makes Q (f x).run) : Makes Q (a >>= f).run := by
  rw [ExceptT.run_bind]
  refine Makes.bind ha fun r => ?_
  cases r with
  | ok x => exact hf x
  | error e => trivial

theorem mapM {f : β → ExceptT ε (Program I) α} {xs : List β} (hf : ∀ x, Makes Q (f x).run) :
    Makes Q (xs.mapM f).run := by
  induction xs with
  | nil => trivial
  | cons x xs ih =>
    rw [List.mapM_cons]
    exact (hf x).except_bind fun _ => ih.except_bind fun _ => trivial

end Makes

end RowIdentity.Program
