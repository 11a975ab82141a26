import RowIdentity.Proofs.Dialogue
import RowIdentity.Sql.Store

/-!
# What a connection is told

* `Exchange.told`, `began`, `committed` — statements and transactions that the server carried out;
* `Exchange.Failed`, `Exchange.Lists`, `Smooth` — a call that failed, a listing of keys, and dialogues without either;
* `SqlResult.Keys` — the keys that the rows of a reply read as;
* `keys_inv`, `mapped_inv`, `existing_inv`, `insertEntries_inv`, `ensureSchema_inv` — **the whole dialogue of a store
  call that ends well**;
* `Says` — an action of the backend that ends well over the connection, with its dialogue; `Says.bind_inv`.
-/

namespace RowIdentity

open Program

variable {d : List (Exchange Database)} {registry : Registry} {α β ε : Type}

/-! ## Exchanges -/

/-- The reply to a call is a failure. -/
def SqlCall.Fails : (c : SqlCall) → c.Reply → Prop
  | .connect _, r | .begin, r | .commit, r => ∃ text, (r : Except String Unit) = .error text
  | .run _, r => ∃ text, (r : Except String SqlResult) = .error text
  | .rollback, _ | .flag, _ | .stamp, _ => False

namespace Program.Exchange

/-- A statement that the server carried out. -/
def told (s : Statement) (r : SqlResult) : Exchange Database := ⟨SqlCall.run s, Except.ok r⟩

/-- The start of a transaction. -/
def began : Exchange Database := ⟨SqlCall.begin, Except.ok ()⟩

/-- The end of a transaction that the server kept. -/
def committed : Exchange Database := ⟨SqlCall.commit, Except.ok ()⟩

/-- A connection that was made. -/
def connected (url : String) : Exchange Database := ⟨SqlCall.connect url, Except.ok ()⟩

/-- A fresh id and the time, which are drawn without the server. -/
def stamped (t : Stamp) : Exchange Database := ⟨SqlCall.stamp, t⟩

/-- The server could not be reached, or it refused. -/
def Failed (x : Exchange Database) : Prop := SqlCall.Fails x.call x.reply

/-- The call lists keys. -/
def Lists (x : Exchange Database) : Prop := ∃ table after limit, x.call = SqlCall.run (.keys table after limit)

/-- The exchange did not fail and listed no keys. -/
structure Plain (x : Exchange Database) : Prop where
  carried : ¬ x.Failed
  silent : ¬ x.Lists

theorem not_failed_told (s : Statement) (r : SqlResult) : ¬ (told s r).Failed := fun ⟨_, h⟩ => nomatch h

theorem plain_told {s : Statement} (hs : ∀ table after limit, s ≠ .keys table after limit) (r : SqlResult) :
    (told s r).Plain :=
  ⟨not_failed_told s r, fun ⟨table, after, limit, h⟩ => hs table after limit (SqlCall.run.inj h)⟩

theorem plain_began : began.Plain where
  carried := fun ⟨_, h⟩ => nomatch h
  silent := fun ⟨_, _, _, h⟩ => nomatch h

theorem plain_committed : committed.Plain where
  carried := fun ⟨_, h⟩ => nomatch h
  silent := fun ⟨_, _, _, h⟩ => nomatch h

theorem plain_connected (url : String) : (connected url).Plain where
  carried := fun ⟨_, h⟩ => nomatch h
  silent := fun ⟨_, _, _, h⟩ => nomatch h

theorem plain_stamped (t : Stamp) : (stamped t).Plain := ⟨fun h => h, fun ⟨_, _, _, h⟩ => nomatch h⟩

end Program.Exchange

/-- Nothing in the dialogue failed, and no keys were listed. -/
def Smooth (d : List (Exchange Database)) : Prop := ∀ x ∈ d, x.Plain

theorem Smooth.nil : Smooth [] := fun _ hx => nomatch hx

theorem Smooth.cons {x : Exchange Database} (hx : x.Plain) (h : Smooth d) : Smooth (x :: d) :=
  List.forall_mem_cons.2 ⟨hx, h⟩

theorem Smooth.append {d' : List (Exchange Database)} (h : Smooth d) (h' : Smooth d') : Smooth (d ++ d') :=
  List.forall_mem_append.2 ⟨h, h'⟩

/-- The keys that the rows of a reply read as, in their order. -/
def SqlResult.Keys (r : SqlResult) (pks : List Int64) : Prop :=
  List.Forall₂ (fun row pk => SqlStore.readKey row = .ok pk) r.rows pks

/-! ## Statements -/

namespace Sql

theorem run_inv {purpose : String} {s : Statement} {r : SqlResult} (h : Ends (run purpose s).run d (.ok r)) :
    d = [.told s r] := by
  obtain ⟨reply, rest, rfl, rfl, hreply⟩ := h
  cases reply with
  | error text => cases hreply
  | ok r' =>
    cases hreply
    rfl

theorem begin_inv {purpose : String} (h : Ends (Sql.begin purpose).run d (.ok ())) : d = [.began] := by
  obtain ⟨reply, rest, rfl, rfl, hreply⟩ := h
  cases reply with
  | error text => cases hreply
  | ok u => rfl

theorem commit_inv {purpose : String} (h : Ends (commit purpose).run d (.ok ())) : d = [.committed] := by
  obtain ⟨reply, rest, rfl, rfl, hreply⟩ := h
  cases reply with
  | error text => cases hreply
  | ok u => rfl

theorem connect_inv {url : String} (h : Ends (connect url).run d (.ok ())) : d = [.connected url] := by
  unfold connect at h
  split at h
  · obtain ⟨reply, rest, rfl, rfl, hreply⟩ := h
    cases reply with
    | error text => cases hreply
    | ok u => rfl
  · exact absurd h Ends.not_throw

theorem execute_inv {purpose : String} {s : Statement} {n : Nat} (h : Ends (execute purpose s).run d (.ok n)) :
    ∃ r, d = [.told s r] := by
  obtain ⟨before, after, r, rfl, hrun, hpure⟩ := Ends.except_bind_inv h
  obtain ⟨rfl, -⟩ := Ends.pure_inv hpure
  refine ⟨r, ?_⟩
  rw [run_inv hrun, List.append_nil]

theorem decode_inv {purpose : String} {read : List SqlCell → Except Nat α} {row : List SqlCell} {x : α}
    (h : Ends (decode purpose read row).run d (.ok x)) : d = [] ∧ read row = .ok x := by
  unfold decode at h
  split at h
  · obtain ⟨rfl, rfl⟩ := Ends.pure_inv h
    exact ⟨rfl, ‹_›⟩
  · exact absurd h Ends.not_throw

/-- The rows of a reply are decoded one after another, with no more calls. -/
theorem decodeAll_inv {purpose : String} {read : List SqlCell → Except Nat α} {rows : List (List SqlCell)} {xs : List α}
    (h : Ends (rows.mapM (decode purpose read)).run d (.ok xs)) :
    d = [] ∧ List.Forall₂ (fun row x => read row = .ok x) rows xs := by
  obtain ⟨parts, rfl, rfl, hparts⟩ := Ends.mapM_inv h
  clear h
  induction hparts with
  | nil => exact ⟨rfl, .nil⟩
  | cons hrow _ ih =>
    obtain ⟨hsilent, hread⟩ := decode_inv hrow
    obtain ⟨hrest, hreads⟩ := ih
    exact ⟨by simp [hsilent, hrest], .cons hread hreads⟩

theorem fetchAll_inv {purpose : String} {read : List SqlCell → Except Nat α} {s : Statement} {xs : List α}
    (h : Ends (fetchAll purpose read s).run d (.ok xs)) :
    ∃ r, d = [.told s r] ∧ List.Forall₂ (fun row x => read row = .ok x) r.rows xs := by
  obtain ⟨before, after, r, rfl, hrun, hdecode⟩ := Ends.except_bind_inv h
  obtain ⟨rfl, hreads⟩ := decodeAll_inv hdecode
  exact ⟨r, by rw [run_inv hrun, List.append_nil], hreads⟩

end Sql

/-- A value that is known without a call. -/
theorem lift_inv {x : Except Fault α} {a : α} (h : Ends (liftM x : SqlAction α).run d (.ok a)) : d = [] ∧ x = .ok a := h

/-! ## Store calls -/

namespace SqlStore

theorem keys_inv {ty : String} {after : Option Int64} {limit : Nat} {pks : List Int64}
    (h : Ends (keys registry ty after limit).run d (.ok pks)) :
    ∃ table r, SqlStore.table registry ty = .ok table ∧ d = [.told (.keys table after (RowSelect.word limit)) r] ∧
      r.Keys pks := by
  obtain ⟨before, rest, table, rfl, htable, hfetch⟩ := Ends.except_bind_inv h
  obtain ⟨rfl, hquoted⟩ := lift_inv htable
  obtain ⟨r, rfl, hkeys⟩ := Sql.fetchAll_inv hfetch
  exact ⟨table, r, hquoted, rfl, hkeys⟩

theorem existing_inv {ty : String} {asked pks : List Int64} (h : Ends (existing registry ty asked).run d (.ok pks)) :
    ∃ table r found, SqlStore.table registry ty = .ok table ∧ d = [.told (.existing table asked) r] ∧ r.Keys found ∧
      found.eraseDups = pks := by
  obtain ⟨before, rest, table, rfl, htable, hrest⟩ := Ends.except_bind_inv h
  obtain ⟨rfl, hquoted⟩ := lift_inv htable
  obtain ⟨before, rest, found, rfl, hfetch, hpure⟩ := Ends.except_bind_inv hrest
  obtain ⟨rfl, hpks⟩ := Ends.pure_inv hpure
  obtain ⟨r, rfl, hkeys⟩ := Sql.fetchAll_inv hfetch
  exact ⟨table, r, found, hquoted, rfl, hkeys, hpks⟩

theorem mapped_inv {ty : String} {asked pks : List Int64} (h : Ends (mapped ty asked).run d (.ok pks)) :
    ∃ r found, d = [.told (.mapped ty asked) r] ∧ r.Keys found ∧ found.eraseDups = pks := by
  obtain ⟨before, rest, found, rfl, hfetch, hpure⟩ := Ends.except_bind_inv h
  obtain ⟨rfl, hpks⟩ := Ends.pure_inv hpure
  obtain ⟨r, rfl, hkeys⟩ := Sql.fetchAll_inv hfetch
  exact ⟨r, found, rfl, hkeys, hpks⟩

/-- Without entries nothing is said; with entries they are inserted in a transaction, which is committed. -/
theorem insertEntries_inv {es : List MappingEntry} {n : Nat} (h : Ends (insertEntries es).run d (.ok n)) :
    (es = [] ∧ d = []) ∨ ∃ r, d = [.began, .told (.insertEntries es) r, .committed] := by
  unfold insertEntries at h
  split at h
  next hempty => exact .inl ⟨List.isEmpty_iff.1 hempty, (Ends.pure_inv h).1⟩
  next =>
    obtain ⟨start, rest, _, rfl, hbegin, hrest⟩ := Ends.except_bind_inv h
    obtain ⟨middle, rest, inserted, rfl, hinsert, hrest⟩ := Ends.except_bind_inv hrest
    obtain ⟨last, rest, _, rfl, hcommit, hpure⟩ := Ends.except_bind_inv hrest
    obtain ⟨rfl, -⟩ := Ends.pure_inv hpure
    -- a failed insertion is rolled back and fails all the same
    have hexecute := Ends.tryCatch_inv (fun fault e hfault => by
      obtain ⟨_, _, _, _, _, hthrow⟩ := Ends.except_bind_inv hfault
      exact Ends.not_throw hthrow) hinsert
    obtain ⟨r, rfl⟩ := Sql.execute_inv hexecute
    rw [Sql.begin_inv hbegin, Sql.commit_inv hcommit]
    exact .inr ⟨r, rfl⟩

end SqlStore

theorem ensureSchema_inv (h : Ends ensureSchema.run d (.ok ())) :
    ∃ r₁ r₂ r₃, d = [.told .createMappings r₁, .told .createInsertFunction r₂, .told .createDeleteFunction r₃] := by
  obtain ⟨first, rest, _, rfl, hmappings, hrest⟩ := Ends.except_bind_inv h
  obtain ⟨second, rest, _, rfl, hinsert, hrest⟩ := Ends.except_bind_inv hrest
  obtain ⟨third, rest, _, rfl, hdelete, hpure⟩ := Ends.except_bind_inv hrest
  obtain ⟨rfl, -⟩ := Ends.pure_inv hpure
  obtain ⟨r₁, rfl⟩ := Sql.execute_inv hmappings
  obtain ⟨r₂, rfl⟩ := Sql.execute_inv hinsert
  obtain ⟨r₃, rfl⟩ := Sql.execute_inv hdelete
  exact ⟨r₁, r₂, r₃, rfl⟩

/-! ## Actions of the backend -/

theorem Program.overSql_bind (registry : Registry) (p : Program Backend α) (f : α → Program Backend β) :
    (p >>= f).overSql registry = (p.overSql registry).bind fun a => (f a).overSql registry :=
  interpret_bind _ p f

/-- Over the connection the action ends well with this value, after this dialogue. -/
def Says (registry : Registry) (a : ExceptT ε (Program Backend) α) (d : List (Exchange Database)) (x : α) : Prop :=
  Ends (a.run.overSql registry) d (.ok x)

namespace Says

variable {a : ExceptT ε (Program Backend) α} {x : α}

theorem bind_inv {f : α → ExceptT ε (Program Backend) β} {y : β} (h : Says registry (a >>= f) d y) :
    ∃ before after x, d = before ++ after ∧ Says registry a before x ∧ Says registry (f x) after y := by
  unfold Says at h
  rw [ExceptT.run_bind, overSql_bind] at h
  obtain ⟨before, after, r, rfl, ha, hf⟩ := Ends.bind_inv h
  cases r with
  | ok x => exact ⟨before, after, x, rfl, ha, hf⟩
  | error e => cases hf.2

theorem pure_inv {y : α} (h : Says registry (pure x : ExceptT ε (Program Backend) α) d y) : d = [] ∧ x = y :=
  ⟨h.1, Except.ok.inj h.2⟩

theorem not_throw {e : ε} {y : α} : ¬ Says registry (throw e : ExceptT ε (Program Backend) α) d y :=
  fun h => nomatch h.2

theorem result_inv {r : IdResult α} (h : Says registry (liftM r : Action α) d x) : d = [] ∧ r = .ok x := h

/-- A store call that ends well does so as a part of an action too. -/
theorem toAction_inv {a : StoreAction α} (h : Says registry (liftM a : Action α) d x) : Says registry a d x := by
  change Ends ((a.run >>= fun r => Program.done (r.mapError Fault.toError)).overSql registry) d (.ok x) at h
  rw [overSql_bind] at h
  obtain ⟨before, after, r, rfl, ha, hr⟩ := Ends.bind_inv h
  obtain ⟨rfl, hok⟩ := hr
  cases r with
  | ok y =>
    cases hok
    rwa [List.append_nil]
  | error f => cases hok

/-- What is looked at, be it a fault or not, has been said as well. -/
theorem lift_inv {p : Program Backend α} (h : Says registry (ExceptT.lift p : ExceptT ε (Program Backend) α) d x) :
    Ends (p.overSql registry) d x := by
  unfold Says at h
  rw [ExceptT.run_lift, map_eq_pure_bind, overSql_bind] at h
  obtain ⟨before, after, r, rfl, hp, hr⟩ := Ends.bind_inv h
  obtain ⟨rfl, hok⟩ := hr
  cases hok
  rwa [List.append_nil]

/-- A single call says what the statements behind it say. -/
theorem ask_inv {c : BackendCall} {r : c.Reply} (h : Ends ((Store.ask c).overSql registry) d r) :
    Ends (SqlStore.reply registry c) d r := by
  change Ends ((SqlStore.reply registry c).bind .done) d r at h
  rwa [Program.bind_done] at h

end Says

end RowIdentity
