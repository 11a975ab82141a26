import Mathlib.Data.List.Forall2
import RowIdentity.Program

/-!
# What a program and its service say to each other

* `Program.Exchange`, `Program.dialogue` — the calls of a run, each with the reply that it was given;
* `Program.Ends p d a` — `p`, given the replies of `d`, makes the calls of `d` and ends with `a`;
* `Program.ends_dialogue` — every run ends so with its own dialogue, whatever the service is;
* `Ends.bind_inv`, `Ends.except_bind_inv`, `Ends.mapM_inv` — the dialogue of a program falls into those of its parts.

A program that may fail is looked at where it ends well: then each of its parts did.
-/

namespace RowIdentity.Program

variable {I J : Interface} {α β ε σ : Type}

/-- A call and the reply to it. -/
structure Exchange (I : Interface) where
  call : I.Call
  reply : I.Reply call

/-- The calls that a program makes, each with the reply that it is given. -/
def dialogue (answer : (c : I.Call) → σ → I.Reply c × σ) : Program I α → σ → List (Exchange I)
  | done _, _ => []
  | call c next, s => ⟨c, (answer c s).1⟩ :: (next (answer c s).1).dialogue answer (answer c s).2

/-- The program, given the replies of the dialogue, makes its calls and ends with this value. -/
def Ends : Program I α → List (Exchange I) → α → Prop
  | done a, d, b => d = [] ∧ a = b
  | call c next, d, b => ∃ r rest, d = ⟨c, r⟩ :: rest ∧ (next r).Ends rest b

theorem ends_dialogue (answer : (c : I.Call) → σ → I.Reply c × σ) (p : Program I α) (s : σ) :
    p.Ends (p.dialogue answer s) (p.run answer s).1 := by
  induction p generalizing s with
  | done a => exact ⟨rfl, rfl⟩
  | call c next ih => exact ⟨_, _, rfl, ih _ _⟩

/-- A program over another service does in one part what is done in two. -/
theorem interpret_bind (implement : (c : I.Call) → Program J (I.Reply c)) (p : Program I α) (f : α → Program I β) :
    (p.bind f).interpret implement = (p.interpret implement).bind fun a => (f a).interpret implement := by
  induction p with
  | done a => rfl
  | call c next ih =>
    simp only [call_bind, interpret, bind_assoc]
    congr 1
    funext r
    exact ih r

namespace Ends

variable {d : List (Exchange I)}

theorem bind_inv {p : Program I α} {f : α → Program I β} {b : β} (h : (p.bind f).Ends d b) :
    ∃ before after a, d = before ++ after ∧ p.Ends before a ∧ (f a).Ends after b := by
  induction p generalizing d with
  | done a => exact ⟨[], d, a, rfl, ⟨rfl, rfl⟩, h⟩
  | call c next ih =>
    obtain ⟨r, rest, rfl, hrest⟩ := h
    obtain ⟨before, after, a, rfl, hp, hf⟩ := ih r hrest
    exact ⟨⟨c, r⟩ :: before, after, a, rfl, ⟨r, before, rfl, hp⟩, hf⟩

/-! ## Programs that may fail -/

theorem except_bind_inv {a : ExceptT ε (Program I) α} {f : α → ExceptT ε (Program I) β} {y : β}
    (h : Ends (a >>= f).run d (.ok y)) :
    ∃ before after x, d = before ++ after ∧ Ends a.run before (.ok x) ∧ Ends (f x).run after (.ok y) := by
  rw [ExceptT.run_bind] at h
  obtain ⟨before, after, r, rfl, ha, hf⟩ := bind_inv h
  cases r with
  | ok x => exact ⟨before, after, x, rfl, ha, hf⟩
  | error e => cases hf.2

theorem pure_inv {x y : α} (h : Ends (pure x : ExceptT ε (Program I) α).run d (.ok y)) : d = [] ∧ x = y :=
  ⟨h.1, Except.ok.inj h.2⟩

theorem not_throw {e : ε} {y : α} : ¬ Ends (throw e : ExceptT ε (Program I) α).run d (.ok y) := fun h => nomatch h.2

/-- A handler that never ends well is not reached. -/
theorem tryCatch_inv {a : ExceptT ε (Program I) α} {handle : ε → ExceptT ε (Program I) α} {y : α}
    (hhandle : ∀ e d, ¬ Ends (handle e).run d (.ok y)) (h : Ends (tryCatch a handle).run d (.ok y)) :
    Ends a.run d (.ok y) := by
  rw [ExceptT.run_tryCatch] at h
  obtain ⟨before, after, r, rfl, ha, hr⟩ := bind_inv h
  cases r with
  | ok x =>
    obtain ⟨rfl, hxy⟩ := hr
    rw [List.append_nil, ← hxy]
    exact ha
  | error e => exact absurd hr (hhandle e after)

/-- A list of programs, one after another: each has its part of the dialogue. -/
theorem mapM_inv {f : β → ExceptT ε (Program I) α} {xs : List β} {ys : List α} (h : Ends (xs.mapM f).run d (.ok ys)) :
    ∃ parts : List (List (Exchange I) × α), d = (parts.map (·.1)).flatten ∧ ys = parts.map (·.2) ∧
      List.Forall₂ (fun x part => Ends (f x).run part.1 (.ok part.2)) xs parts := by
  induction xs generalizing d ys with
  | nil =>
    obtain ⟨rfl, rfl⟩ := pure_inv h
    exact ⟨[], rfl, rfl, .nil⟩
  | cons x xs ih =>
    rw [List.mapM_cons] at h
    obtain ⟨first, later, y, rfl, hy, hlater⟩ := except_bind_inv h
    obtain ⟨rest, final, zs, rfl, hzs, hfinal⟩ := except_bind_inv hlater
    obtain ⟨rfl, rfl⟩ := pure_inv hfinal
    obtain ⟨parts, rfl, rfl, hparts⟩ := ih hzs
    exact ⟨(first, y) :: parts, by simp, rfl, .cons hy hparts⟩

end Ends

end RowIdentity.Program
