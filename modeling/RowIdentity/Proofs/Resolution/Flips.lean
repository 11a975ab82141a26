import RowIdentity.Proofs.Resolution.Lookup
import RowIdentity.Proofs.Trace

/-!
# Flips of the flag in the middle of a resolution

* `Program.Hears` — a program on a database whose flag source answers as it likes, and the answers that it heard;
* `World.hears_exec` — under a steady flag it hears that flag alone;
* `Action.Blind` — an action that does not ask for the flag, `Blind.hears`: its result is the same under any;
* `steady_resolveLookup`, `steady_keyOfGlobalId`, `steady_resolveNode_iff` — each dispatcher, by what it heard;
* `resolution_under_flips` — **a flip within a call shows in one place only: an id that is first passed over as a public
  id and then taken for an unknown one**;
* `resolution_torn` — the id of a stored widget, which has no row while the flag is flipped.
-/

namespace RowIdentity

variable {registry : Registry} {moments : Nat → Moment} {α β γ δ : Type} {w w' : World} {heard : List Bool}

/-! ## A flag that answers as it likes -/

/-- The program, run on the database, ends with this value in this state, where the flag source gave the answers
`heard`, one to each question. -/
inductive Program.Hears (registry : Registry) (moments : Nat → Moment) :
    Program Backend γ → World → List Bool → γ → World → Prop
  | done (x : γ) (w : World) : Hears registry moments (.done x) w [] x w
  | flag {next : Bool → Program Backend γ} {w : World} {on : Bool} {heard : List Bool} {x : γ} {w' : World} :
      Hears registry moments (next on) w.tick heard x w' →
      Hears registry moments (.call (I := Backend) .flag next) w (on :: heard) x w'
  | other {c : BackendCall} {next : c.Reply → Program Backend γ} {w : World} {heard : List Bool} {x : γ} {w' : World} :
      c ≠ .flag →
      Hears registry moments (next (World.answer registry moments c w).1) (World.answer registry moments c w).2 heard x
        w' →
      Hears registry moments (.call (I := Backend) c next) w heard x w'

/-- The program does not ask for the flag. -/
def Program.Quiet (p : Program Backend γ) : Prop := p.Makes fun c => c ≠ BackendCall.flag

namespace Program.Hears

theorem bind_inv {p : Program Backend γ} {f : γ → Program Backend δ} {y : δ}
    (h : Hears registry moments (p.bind f) w heard y w') :
    ∃ first rest x w₁, heard = first ++ rest ∧ Hears registry moments p w first x w₁ ∧
      Hears registry moments (f x) w₁ rest y w' := by
  induction p generalizing w heard with
  | done x => exact ⟨[], heard, x, w, rfl, .done x w, h⟩
  | call c next ih =>
    cases h with
    | @flag _ _ on heard _ _ h =>
      obtain ⟨first, rest, x, w₁, rfl, hp, hf⟩ := ih on h
      exact ⟨on :: first, rest, x, w₁, rfl, .flag hp, hf⟩
    | other hc h =>
      obtain ⟨first, rest, x, w₁, rfl, hp, hf⟩ := ih _ h
      exact ⟨first, rest, x, w₁, rfl, .other hc hp, hf⟩

/-- A program that does not ask for the flag runs as it would under any. -/
theorem quiet {p : Program Backend γ} {x : γ} (hp : p.Quiet) (h : Hears registry moments p w heard x w') :
    heard = [] ∧ World.exec registry moments p w = (x, w') := by
  induction h with
  | done x w => exact ⟨rfl, rfl⟩
  | flag _ _ => exact absurd rfl hp.1
  | other _ _ ih => exact ih (hp.2 _)

end Program.Hears

namespace World

/-- A steady flag is one of the ways in which the flag may answer. -/
theorem hears_exec (p : Program Backend γ) (w : World) :
    ∃ heard, (∀ on ∈ heard, on = w.flag) ∧
      p.Hears registry moments w heard (exec registry moments p w).1 (exec registry moments p w).2 := by
  induction p generalizing w with
  | done x => exact ⟨[], by simp, .done x w⟩
  | call c next ih =>
    obtain ⟨heard, hsteady, h⟩ := ih (answer registry moments c w).1 (answer registry moments c w).2
    by_cases hc : c = .flag
    · subst hc
      refine ⟨w.flag :: heard, ?_, .flag h⟩
      rintro on (_ | ⟨_, hon⟩)
      · rfl
      · exact hsteady on hon
    · exact ⟨heard, hsteady, .other hc h⟩

/-- The same database under another value of the public id flag. -/
def withFlag (w : World) (on : Bool) : World := { w with flags := w.flags.set publicIdFlag on }

@[simp] theorem memory_withFlag (w : World) (on : Bool) : (w.withFlag on).memory = w.memory := rfl

@[simp] theorem flag_withFlag (w : World) (on : Bool) : (w.withFlag on).flag = on := by
  simp [withFlag, flag, RuntimeFlags.set, RuntimeFlags.isOn]

end World

/-! ## Actions that do not ask for the flag -/

namespace Action

variable {a : Action α} {r : IdResult α}

theorem hears_bind {f : α → Action β} {y : IdResult β}
    (h : (a >>= f).run.Hears registry moments w heard y w') :
    (∃ e, y = .error e ∧ a.run.Hears registry moments w heard (.error e) w') ∨
      ∃ first rest x w₁, heard = first ++ rest ∧ a.run.Hears registry moments w first (.ok x) w₁ ∧
        (f x).run.Hears registry moments w₁ rest y w' := by
  rw [ExceptT.run_bind] at h
  obtain ⟨first, rest, x, w₁, rfl, ha, hf⟩ := Program.Hears.bind_inv h
  cases x with
  | ok x => exact .inr ⟨first, rest, x, w₁, rfl, ha, hf⟩
  | error e =>
    cases hf with
    | done => exact .inl ⟨e, rfl, by rwa [List.append_nil]⟩

theorem hears_pure {x : α} (h : (pure x : Action α).run.Hears registry moments w heard r w') :
    heard = [] ∧ r = .ok x := by
  cases h with
  | done => exact ⟨rfl, rfl⟩

theorem hears_throw {e : IdError} (h : (throw e : Action α).run.Hears registry moments w heard r w') :
    heard = [] ∧ r = .error e := by
  cases h with
  | done => exact ⟨rfl, rfl⟩

/-- To ask for the flag is to go on with whatever it answers. -/
theorem hears_publicIdEnabled {f : Bool → Action α}
    (h : (publicIdEnabled >>= f).run.Hears registry moments w heard r w') :
    ∃ on rest, heard = on :: rest ∧ (f on).run.Hears registry moments w.tick rest r w' := by
  change Program.Hears registry moments (.call (I := Backend) .flag fun on : Bool => (f on).run) w heard r w' at h
  cases h with
  | flag h => exact ⟨_, _, rfl, h⟩
  | other hc _ => exact absurd rfl hc

/-- The action only looks at the database, and not at the flag. -/
structure Blind (a : Action α) : Prop where
  quiet : a.run.Quiet
  reads : ∃ f : Memory → IdResult α, a.Reads fun m _ => f m

namespace Blind

theorem pure (x : α) : Blind (Pure.pure x) := ⟨trivial, _, .pure x⟩

theorem throw (e : IdError) : Blind (MonadExcept.throw e : Action α) := ⟨trivial, _, .throw e⟩

theorem result (r : IdResult α) : Blind (liftM r) := ⟨trivial, _, .result r⟩

theorem row (ty : String) (pk : Int64) : Blind (liftM (Store.row ty pk)) :=
  ⟨⟨nofun, fun _ => trivial⟩, _, .row ty pk⟩

theorem entryById (u : Uuid) : Blind (liftM (Store.entryById u)) :=
  ⟨⟨nofun, fun _ => trivial⟩, _, .entryById u⟩

theorem bind {k : α → Action β} (ha : Blind a) (hk : ∀ x, Blind (k x)) : Blind (a >>= k) := by
  obtain ⟨f, hf⟩ := ha.reads
  choose g hg using fun x => (hk x).reads
  exact ⟨ha.quiet.except_bind fun x => (hk x).quiet, _, hf.bind hg⟩

theorem map (f : α → β) (ha : Blind a) : Blind (f <$> a) := by
  rw [map_eq_pure_bind]
  exact ha.bind fun x => .pure (f x)

theorem ite {c : Prop} [Decidable c] {b : Action α} (ha : Blind a) (hb : Blind b) : Blind (if c then a else b) := by
  split
  · exact ha
  · exact hb

/-- Its result is the same in every database with the same stored state. -/
theorem hears (ha : Blind a) (h : a.run.Hears registry moments w heard r w') :
    heard = [] ∧ w'.memory = w.memory ∧
      ∀ w₁ : World, w₁.memory = w.memory → (World.run registry moments a w₁).1 = r := by
  obtain ⟨hheard, hexec⟩ := h.quiet ha.quiet
  obtain ⟨f, hf⟩ := ha.reads
  obtain ⟨n, hn⟩ := hf registry moments w
  rw [World.run_eq, hexec] at hn
  obtain ⟨rfl, rfl⟩ := Prod.mk.inj hn
  refine ⟨hheard, rfl, fun w₁ hw₁ => ?_⟩
  rw [hf.run_fst, hw₁]

end Blind

end Action

/-! ## The strategies do not ask -/

theorem blind_publicIdNode (registry : Registry) (s : String) (expected : Option String) :
    (publicIdNode registry s expected).Blind := by
  refine Action.Blind.bind (.result _) fun publicId => ?_
  refine Action.Blind.bind (.entryById _) fun entry? => ?_
  cases entry? with
  | none => exact Action.Blind.pure _
  | some entry =>
    refine Action.Blind.bind (.result _) fun model => ?_
    refine Action.Blind.ite (.throw _) ?_
    refine Action.Blind.bind (.result _) fun typeName => ?_
    exact Action.Blind.bind (.result _) fun _ => .row _ _

theorem blind_legacyNode (registry : Registry) (s : String) (expected : Option String) :
    (legacyNode registry s expected).Blind := by
  refine Action.Blind.bind (.result _) fun ⟨typeName, key⟩ => ?_
  refine Action.Blind.bind (.result _) fun _ => ?_
  refine Action.Blind.bind (.result _) fun model => ?_
  refine Action.Blind.bind (.result _) fun _ => ?_
  exact Action.Blind.bind (.result _) fun pk => .row _ _

theorem blind_pkNode (registry : Registry) (s : String) (expected : Option String) :
    (pkNode registry s expected).Blind := by
  cases expected with
  | none => exact Action.Blind.throw _
  | some name =>
    refine Action.Blind.bind (.result _) fun model => ?_
    refine Action.Blind.ite (.throw _) ?_
    refine Action.Blind.bind (.result _) fun _ => ?_
    exact Action.Blind.bind (.result _) fun pk => .row _ _

theorem blind_keyOf (scheme : IdScheme) (s : String) (model : Model) : (scheme.keyOf s (some model)).Blind := by
  cases scheme with
  | legacy =>
    refine Action.Blind.ite (.result _) ?_
    refine Action.Blind.bind (.result _) fun ⟨typeName, key⟩ => ?_
    exact Action.Blind.ite (.throw _) (.result _)
  | pk => exact Action.Blind.result _
  | publicId =>
    refine Action.Blind.bind (.result _) fun publicId => ?_
    refine Action.Blind.bind (.entryById _) fun entry? => ?_
    cases entry? with
    | none => exact Action.Blind.throw _
    | some entry => exact Action.Blind.ite (.throw _) (.pure _)

theorem blind_nodeKey (scheme : IdScheme) (registry : Registry) (s : String) (expected : Option String) :
    (scheme.nodeKey registry s expected).Blind := by
  cases scheme with
  | legacy =>
    refine Action.Blind.bind (.result _) fun ⟨typeName, key⟩ => ?_
    exact Action.Blind.bind (.result _) fun _ => .result _
  | pk => exact Action.Blind.result _
  | publicId =>
    refine Action.Blind.bind (.result _) fun publicId => ?_
    refine Action.Blind.bind (.entryById _) fun entry? => ?_
    cases entry? with
    | none =>
      cases expected with
      | none => exact Action.Blind.bind (.pure _) fun _ => .throw _
      | some name => exact Action.Blind.bind (.map _ (.result _)) fun _ => .throw _
    | some entry =>
      cases expected with
      | none => exact Action.Blind.pure _
      | some name =>
        refine Action.Blind.bind (.result _) fun model => ?_
        exact Action.Blind.bind (.result _) fun _ => .pure _

/-! ## What each dispatcher returns -/

/-- The result is the one under a steady flag: of a value that was heard, or of either if none was. -/
def Action.Steady (registry : Registry) (moments : Nat → Moment) (a : Action α) (w : World) (heard : List Bool)
    (r : IdResult α) : Prop :=
  (heard = [] ∧ ∀ on, (World.run registry moments a (w.withFlag on)).1 = r) ∨
    ∃ on ∈ heard, (World.run registry moments a (w.withFlag on)).1 = r

/-- An action that does not ask has the result it has under either value of the flag. -/
theorem Action.Blind.steady {a : Action α} {r : IdResult α} (ha : a.Blind)
    (h : a.run.Hears registry moments w heard r w') : a.Steady registry moments w heard r := by
  obtain ⟨hheard, -, hrun⟩ := ha.hears h
  exact .inl ⟨hheard, fun on => hrun _ rfl⟩

/-- An action that asks once has the result it has under the answer. -/
theorem Action.steady_of_one {f : Bool → Action α} {r : IdResult α} (hf : ∀ on, (f on).Blind)
    (h : (publicIdEnabled >>= f).run.Hears registry moments w heard r w') :
    ∃ on ∈ heard, (World.run registry moments (publicIdEnabled >>= f) (w.withFlag on)).1 = r := by
  obtain ⟨on, rest, rfl, hon⟩ := hears_publicIdEnabled h
  obtain ⟨-, -, hrun⟩ := (hf on).hears hon
  refine ⟨on, List.mem_cons_self, ?_⟩
  rw [World.run_bind, World.run_publicIdEnabled, World.flag_withFlag]
  exact hrun _ rfl

theorem steady_keyOfGlobalId (s : String) (expected : Option String) {r : IdResult Int64}
    (h : (keyOfGlobalId registry s expected).run.Hears registry moments w heard r w') :
    (keyOfGlobalId registry s expected).Steady registry moments w heard r := by
  by_cases hc : isCanonicalV4 s = true
  · have heq : keyOfGlobalId registry s expected = publicIdEnabled >>= fun isPublic =>
        (if isPublic then IdScheme.publicId else if isNumeric s then .pk else .legacy).nodeKey registry s expected := by
      unfold keyOfGlobalId
      rw [if_pos hc]
    rw [heq] at h ⊢
    exact .inr (Action.steady_of_one (fun _ => blind_nodeKey _ _ _ _) h)
  · have heq : keyOfGlobalId registry s expected =
        (if isNumeric s then IdScheme.pk else .legacy).nodeKey registry s expected := by
      unfold keyOfGlobalId
      rw [if_neg hc, pure_bind]
      rfl
    rw [heq] at h ⊢
    exact (blind_nodeKey _ _ _ _).steady h

theorem blind_lookupBy (model : Model) (s : String) (scheme : IdScheme) (isPublic : Bool) :
    (lookupBy model s scheme isPublic).Blind :=
  .ite (blind_keyOf _ _ _) (.ite (.ite (.throw _) (blind_keyOf _ _ _)) (blind_keyOf _ _ _))

theorem resolveLookup_of_canonical (model : Model) {s : String} (hc : isCanonicalV4 s = true) :
    resolveLookup model s = publicIdEnabled >>= fun first =>
      publicIdEnabled >>= fun second => lookupBy model s (model.scheme first) second := by
  simp only [resolveLookup_eq, currentScheme, hc, if_true, bind_assoc, pure_bind]

theorem resolveLookup_of_not_canonical (model : Model) {s : String} (hc : ¬ isCanonicalV4 s = true) :
    resolveLookup model s = publicIdEnabled >>= fun on => lookupBy model s (model.scheme on) false := by
  simp only [resolveLookup_eq, currentScheme, hc, Bool.false_eq_true, if_false, bind_assoc, pure_bind]

/-- A canonical UUID is no number, so the scheme is not looked at. -/
theorem lookupBy_of_canonical (model : Model) {s : String} (hc : isCanonicalV4 s = true) (scheme scheme' : IdScheme)
    (isPublic : Bool) : lookupBy model s scheme isPublic = lookupBy model s scheme' isPublic := by
  simp only [lookupBy, not_isNumeric_of_hyphen (hyphen_mem_of_isCanonicalV4 hc), Bool.false_eq_true, if_false]

/-- A path segment is read under the last answer; the first one chooses a scheme, which matters for numbers alone. -/
theorem steady_resolveLookup (model : Model) (s : String) {r : IdResult Int64}
    (h : (resolveLookup model s).run.Hears registry moments w heard r w') :
    ∃ on ∈ heard, (World.run registry moments (resolveLookup model s) (w.withFlag on)).1 = r := by
  by_cases hc : isCanonicalV4 s = true
  · rw [resolveLookup_of_canonical model hc] at h ⊢
    obtain ⟨first, _, rfl, hfirst⟩ := Action.hears_publicIdEnabled h
    obtain ⟨second, _, rfl, hsecond⟩ := Action.hears_publicIdEnabled hfirst
    obtain ⟨-, -, hrun⟩ := (blind_lookupBy _ _ _ _).hears hsecond
    refine ⟨second, by simp, ?_⟩
    simp only [World.run_bind, World.run_publicIdEnabled, World.flag_withFlag, World.flag_tick]
    rw [lookupBy_of_canonical model hc _ (model.scheme first)]
    exact hrun _ rfl
  · rw [resolveLookup_of_not_canonical model hc] at h ⊢
    exact Action.steady_of_one (fun on => blind_lookupBy model s (model.scheme on) false) h

/-- What becomes of a canonical UUID that led to no row, by the answer to the last question. -/
def passedOver (s : String) (on : Bool) : IdResult (Option Row) :=
  if on then .ok none else .error (.invalidFormat s "not a base64 global id")

theorem hears_resolveOtherNode {s : String} (hc : isCanonicalV4 s = true) {expected : Option String}
    {r : IdResult (Option Row)}
    (h : (resolveOtherNode registry s expected).run.Hears registry moments w heard r w') :
    ∃ on, heard = [on] ∧ r = passedOver s on := by
  rw [resolveOtherNode_of_canonical registry expected hc] at h
  obtain ⟨on, rest, rfl, hrest⟩ := Action.hears_publicIdEnabled h
  cases on with
  | true =>
    obtain ⟨rfl, rfl⟩ := Action.hears_pure hrest
    exact ⟨true, rfl, rfl⟩
  | false =>
    obtain ⟨rfl, rfl⟩ := Action.hears_throw hrest
    exact ⟨false, rfl, rfl⟩

/-- The three courses of a canonical UUID: it is passed over at once; it is taken for a public id, which ends the matter
unless it has no row; and if it has none the flag is asked for again. -/
theorem hears_resolveNode {s : String} (hc : isCanonicalV4 s = true) {expected : Option String}
    {r : IdResult (Option Row)} (h : (resolveNode registry s expected).run.Hears registry moments w heard r w') :
    (∃ on, heard = [false, on] ∧ r = passedOver s on) ∨
      (heard = [true] ∧ r = w.memory.publicIdNode registry s expected) ∨
      ∃ on, heard = [true, on] ∧ w.memory.publicIdNode registry s expected = .ok none ∧ r = passedOver s on := by
  unfold resolveNode at h
  rw [if_pos hc] at h
  obtain ⟨first, rest, rfl, hfirst⟩ := Action.hears_publicIdEnabled h
  cases first with
  | false =>
    obtain ⟨on, rfl, rfl⟩ := hears_resolveOtherNode hc hfirst
    exact .inl ⟨on, rfl, rfl⟩
  | true =>
    -- the Public-ID strategy does not ask, so its result is the one it reads from the stored state
    have hread : ∀ {heard r w'}, (publicIdNode registry s expected).run.Hears registry moments w.tick heard r w' →
        heard = [] ∧ w.memory.publicIdNode registry s expected = r := by
      intro heard r w' hears
      obtain ⟨hheard, -, hrun⟩ := (blind_publicIdNode _ _ _).hears hears
      exact ⟨hheard, ((reads_publicIdNode registry s expected).run_fst w.tick).symm.trans (hrun w.tick rfl)⟩
    rcases Action.hears_bind hfirst with ⟨e, rfl, herror⟩ | ⟨before, after, row?, w₁, rfl, hrow, hafter⟩
    · obtain ⟨rfl, hnode⟩ := hread herror
      exact .inr (.inl ⟨rfl, hnode.symm⟩)
    · obtain ⟨rfl, hnode⟩ := hread hrow
      cases row? with
      | some row =>
        obtain ⟨rfl, rfl⟩ := Action.hears_pure hafter
        exact .inr (.inl ⟨rfl, hnode.symm⟩)
      | none =>
        obtain ⟨on, rfl, rfl⟩ := hears_resolveOtherNode hc hafter
        exact .inr (.inr ⟨on, rfl, hnode, rfl⟩)

theorem blind_resolveNode {s : String} (hc : ¬ isCanonicalV4 s = true) (registry : Registry)
    (expected : Option String) : (resolveNode registry s expected).Blind := by
  have hother : isCanonicalV4 s = false := by simpa using hc
  rw [resolveNode_of_not_canonical registry expected hother, resolveOtherNode,
    legacyNodeAtLast_of_not_canonical registry expected hother]
  exact .ite (blind_pkNode _ _ _) (blind_legacyNode _ _ _)

/-- The result of a canonical UUID under a steady flag. -/
theorem World.run_resolveNode_withFlag {s : String} (hc : isCanonicalV4 s = true) (expected : Option String) (w : World)
    (on : Bool) :
    (run registry moments (resolveNode registry s expected) (w.withFlag on)).1 =
      if on then w.memory.publicIdNode registry s expected
      else .error (.invalidFormat s "not a base64 global id") := by
  rw [(reads_resolveNode registry s expected).run_fst, flag_withFlag, memory_withFlag, Memory.node_of_canonical hc]

/-- Only a flag that is found off and then on can give what no steady flag gives, and it does unless the public id has
no row anyway. -/
theorem steady_resolveNode_iff (s : String) (expected : Option String) {r : IdResult (Option Row)}
    (h : (resolveNode registry s expected).run.Hears registry moments w heard r w') :
    ((resolveNode registry s expected).Steady registry moments w heard r ↔
        (heard = [false, true] →
          (World.run registry moments (resolveNode registry s expected) (w.withFlag true)).1 = .ok none)) ∧
      (heard = [false, true] → r = .ok none) := by
  by_cases hc : isCanonicalV4 s = true
  · simp only [Action.Steady, World.run_resolveNode_withFlag hc]
    rcases hears_resolveNode hc h with ⟨on, rfl, rfl⟩ | ⟨rfl, rfl⟩ | ⟨on, rfl, hnode, rfl⟩
    · cases on with
      | false => simp [passedOver]
      | true => simp [passedOver]
    · simp
    · cases on with
      | false => simp [passedOver]
      | true => simp [passedOver, hnode]
  · have hblind := blind_resolveNode hc registry expected
    obtain ⟨rfl, -, -⟩ := hblind.hears h
    exact ⟨⟨fun _ => nofun, fun _ => hblind.steady h⟩, nofun⟩

/-- **A flag that is flipped within a call.** Whatever the flag source answers to the questions of one call, the key
behind a path segment and the key behind a global id are those under a steady flag of a value that was heard. The row
behind a global id is too, but in one case: the flag is off at the first question and on at the second. Then the id, a
canonical UUID, is passed over as a public id and taken for an unknown one, so that it has no row, even where a steady
flag yields its row or an error. -/
theorem resolution_under_flips (registry : Registry) (moments : Nat → Moment) (w w' : World) (s : String)
    (heard : List Bool) :
    (∀ (model : Model) (r : IdResult Int64),
      (resolveLookup model s).run.Hears registry moments w heard r w' →
        ∃ on ∈ heard, (World.run registry moments (resolveLookup model s) (w.withFlag on)).1 = r) ∧
    (∀ (expected : Option String) (r : IdResult Int64),
      (keyOfGlobalId registry s expected).run.Hears registry moments w heard r w' →
        (keyOfGlobalId registry s expected).Steady registry moments w heard r) ∧
    ∀ (expected : Option String) (r : IdResult (Option Row)),
      (resolveNode registry s expected).run.Hears registry moments w heard r w' →
        ((resolveNode registry s expected).Steady registry moments w heard r ↔
          (heard = [false, true] →
            (World.run registry moments (resolveNode registry s expected) (w.withFlag true)).1 = .ok none)) ∧
        (heard = [false, true] → r = .ok none) :=
  ⟨fun model _ h => steady_resolveLookup model s h, fun expected _ h => steady_keyOfGlobalId s expected h,
    fun expected _ h => steady_resolveNode_iff s expected h⟩

/-- A canonical UUID is passed over when the flag is found off, and taken for unknown when it is then found on. -/
theorem hears_off_on {s : String} (hc : isCanonicalV4 s = true) (registry : Registry) (moments : Nat → Moment)
    (w : World) (expected : Option String) :
    (resolveNode registry s expected).run.Hears registry moments w [false, true] (.ok none) w.tick.tick := by
  unfold resolveNode
  rw [if_pos hc]
  refine Program.Hears.flag ?_
  change (resolveOtherNode registry s expected).run.Hears registry moments w.tick [true] (.ok none) w.tick.tick
  rw [resolveOtherNode_of_canonical registry expected hc]
  exact .flag (.done _ _)

/-- The flag goes on while the public id of the first widget is resolved. -/
theorem resolution_under_flips_widget :
    (resolveNode .widgets "00000000-0000-4000-8000-000000000000" none).run.Hears .widgets (fun _ => .start)
        (.widget false) [false, true] (.ok none) (World.widget false).tick.tick ∧
      (World.run .widgets (fun _ => .start) (resolveNode .widgets "00000000-0000-4000-8000-000000000000" none)
        ((World.widget false).withFlag true)).1 = .ok (some .widget) ∧
      ¬ (resolveNode .widgets "00000000-0000-4000-8000-000000000000" none).Steady .widgets (fun _ => .start)
        (.widget false) [false, true] (.ok none) := by
  have hc : isCanonicalV4 "00000000-0000-4000-8000-000000000000" = true := by decide +kernel
  have hflip := hears_off_on hc .widgets (fun _ => .start) (.widget false) none
  have hfound : (World.run .widgets (fun _ => .start) (resolveNode .widgets "00000000-0000-4000-8000-000000000000" none)
      ((World.widget false).withFlag true)).1 = .ok (some .widget) := rfl
  refine ⟨hflip, hfound, fun hsteady => ?_⟩
  have hnone := ((resolution_under_flips .widgets (fun _ => .start) (.widget false) _ _ _).2.2 none _ hflip).1.1
    hsteady rfl
  cases hfound.symm.trans hnone

/-- **No steady flag gives what was returned**: while it is on the widget is found, and while it is off the id is
malformed. -/
theorem resolution_torn :
    ∃ (registry : Registry) (moments : Nat → Moment) (w w' : World) (s : String) (heard : List Bool)
      (r : IdResult (Option Row)),
      registry.Built ∧ Memory.Reachable registry w.memory ∧
        (resolveNode registry s none).run.Hears registry moments w heard r w' ∧
        ∀ on, (World.run registry moments (resolveNode registry s none) (w.withFlag on)).1 ≠ r := by
  have hc : isCanonicalV4 "00000000-0000-4000-8000-000000000000" = true := by decide +kernel
  refine ⟨.widgets, fun _ => .start, .widget false, _, _, _, _, Registry.built_widgets, Memory.reachable_widget false,
    hears_off_on hc .widgets (fun _ => .start) (.widget false) none, ?_⟩
  intro on
  rw [World.run_resolveNode_withFlag hc]
  cases on with
  | false => exact fun h => by cases h
  | true =>
    rw [if_pos rfl]
    intro h
    cases (show Memory.publicIdNode .widgets (World.widget false).memory "00000000-0000-4000-8000-000000000000" none =
      .ok (some .widget) from rfl).symm.trans h

end RowIdentity
