/-!
# Programs that call a service

* `Interface` — the calls of a service and the type of the reply to each
* `Program` — a computation that makes such calls one after another
* `Program.run` — runs a program against a service with a state
* `Program.interpret` — replaces each call by a program over another service
-/

namespace RowIdentity

/-- The calls of a service, and the type of the reply to each. -/
structure Interface where
  Call : Type
  Reply : Call → Type

/-- A computation that makes calls one after another; what it does next may hang on the replies. -/
inductive Program (I : Interface) (α : Type) : Type where
  | done (a : α)
  | call (c : I.Call) (next : I.Reply c → Program I α)

namespace Program

variable {I J : Interface} {α β γ σ : Type}

def request (c : I.Call) : Program I (I.Reply c) := .call c .done

def bind : Program I α → (α → Program I β) → Program I β
  | done a, f => f a
  | call c next, f => .call c fun r => (next r).bind f

instance : Monad (Program I) where
  pure := .done
  bind := Program.bind

@[simp] theorem done_bind (a : α) (f : α → Program I β) : (done a).bind f = f a := rfl

@[simp] theorem call_bind (c : I.Call) (next : I.Reply c → Program I α) (f : α → Program I β) :
    (call c next).bind f = .call c fun r => (next r).bind f := rfl

theorem bind_done (p : Program I α) : p.bind .done = p := by
  induction p with
  | done a => rfl
  | call c next ih => simp [ih]

theorem bind_assoc (p : Program I α) (f : α → Program I β) (g : β → Program I γ) :
    (p.bind f).bind g = p.bind fun a => (f a).bind g := by
  induction p with
  | done a => rfl
  | call c next ih => simp [ih]

instance : LawfulMonad (Program I) :=
  LawfulMonad.mk' (Program I) (fun p => bind_done p) (fun _ _ => rfl)
    (fun p f g => bind_assoc p f g)

/-- Runs a program against a service whose replies depend on its state and change it. -/
def run (answer : (c : I.Call) → σ → I.Reply c × σ) : Program I α → σ → α × σ
  | done a, s => (a, s)
  | call c next, s =>
    let (r, s) := answer c s
    (next r).run answer s

@[simp] theorem run_done (answer : (c : I.Call) → σ → I.Reply c × σ) (a : α) (s : σ) :
    (done a : Program I α).run answer s = (a, s) := rfl

@[simp] theorem run_call (answer : (c : I.Call) → σ → I.Reply c × σ) (c : I.Call)
    (next : I.Reply c → Program I α) (s : σ) :
    (call c next).run answer s = (next (answer c s).1).run answer (answer c s).2 := rfl

theorem run_bind (answer : (c : I.Call) → σ → I.Reply c × σ) (p : Program I α)
    (f : α → Program I β) (s : σ) :
    (p.bind f).run answer s = (f (p.run answer s).1).run answer (p.run answer s).2 := by
  induction p generalizing s with
  | done a => rfl
  | call c next ih => simp [ih]

/-- Replaces each call by a program over another service. -/
def interpret (implement : (c : I.Call) → Program J (I.Reply c)) : Program I α → Program J α
  | done a => .done a
  | call c next => (implement c).bind fun r => (next r).interpret implement

end Program

end RowIdentity
