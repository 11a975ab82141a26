import Mathlib.Data.List.Nodup
import RowIdentity.Proofs.Concurrency.Told
import RowIdentity.Sql.Store

/-!
# Callers in a race for an entry

Any number of callers ask for the entries of rows by `SqlStore.entryOrNew`. Each statement is one step of the server,
and between any two statements of a caller others may come in: those of other callers, and entries that are inserted
from elsewhere. Nothing is deleted.

* `Unique`, `insertNew` — the constraints of the mapping table, and an insertion that leaves out what is in conflict;
* `Server.serve` — what the server makes of the statements;
* `Ensures` — what a program comes to within a number of calls, **however the table grows between them**;
* `ensures_entryOrNew` — the entry of a row is in the table when it is returned;
* `Traffic`, `Traffic.Move` — a table with its callers, and what happens to it next;
* `Traffic.Sound`, `Sound.step` — every caller is on its way to the entry of its row, and **no move breaks this**;
* `entryOrNew_raceFree` — every caller that is through has the one entry of its row.
-/

namespace RowIdentity

/-! ## The mapping table -/

/-- No public id has two entries, nor has any row. -/
structure Unique (entries : List MappingEntry) : Prop where
  ids : (entries.map (·.publicId)).Nodup
  rows : (entries.map MappingEntry.key).Nodup

/-- Inserts an entry unless its public id or its row is taken. -/
def insertNew (entries : List MappingEntry) (e : MappingEntry) : List MappingEntry :=
  if ∃ e' ∈ entries, e'.publicId = e.publicId ∨ e'.key = e.key then entries else entries ++ [e]

/-- The entries of a row. -/
def entriesAt (entries : List MappingEntry) (k : String × Int64) : List MappingEntry :=
  entries.filter fun e => e.key = k

variable {entries entries' : List MappingEntry} {e : MappingEntry} {k : String × Int64}

theorem Unique.empty : Unique [] := ⟨List.nodup_nil, List.nodup_nil⟩

theorem Unique.insertNew (h : Unique entries) (e : MappingEntry) : Unique (insertNew entries e) := by
  unfold RowIdentity.insertNew
  split
  next => exact h
  next hfree =>
    have hnew : ∀ e' ∈ entries, e'.publicId ≠ e.publicId ∧ e'.key ≠ e.key := fun e' he' =>
      ⟨fun hid => hfree ⟨e', he', .inl hid⟩, fun hkey => hfree ⟨e', he', .inr hkey⟩⟩
    constructor
    · rw [List.map_append]
      refine h.ids.append (List.nodup_singleton _) fun u hu hu' => ?_
      obtain ⟨e', he', rfl⟩ := List.mem_map.1 hu
      exact (hnew e' he').1 (List.mem_singleton.1 hu')
    · rw [List.map_append]
      refine h.rows.append (List.nodup_singleton _) fun k hk hk' => ?_
      obtain ⟨e', he', rfl⟩ := List.mem_map.1 hk
      exact (hnew e' he').2 (List.mem_singleton.1 hk')

theorem subset_insertNew (entries : List MappingEntry) (e : MappingEntry) : entries ⊆ insertNew entries e := by
  unfold insertNew
  split
  · exact List.Subset.refl _
  · exact List.subset_append_left _ _

theorem Unique.insertAll (h : Unique entries) (es : List MappingEntry) :
    Unique (es.foldl RowIdentity.insertNew entries) := by
  induction es generalizing entries with
  | nil => exact h
  | cons e es ih => exact ih (h.insertNew e)

theorem subset_insertAll (entries es : List MappingEntry) : entries ⊆ es.foldl insertNew entries := by
  induction es generalizing entries with
  | nil => exact List.Subset.refl _
  | cons e es ih => exact List.Subset.trans (subset_insertNew entries e) (ih _)

/-- **The row has an entry afterwards**, if the id was not that of another row. -/
theorem exists_mem_insertNew (hclear : ∀ e' ∈ entries, e'.publicId = e.publicId → e'.key = e.key) :
    ∃ e' ∈ insertNew entries e, e'.key = e.key := by
  unfold insertNew
  split
  next htaken =>
    obtain ⟨e', he', hid | hkey⟩ := htaken
    · exact ⟨e', he', hclear e' he' hid⟩
    · exact ⟨e', he', hkey⟩
  next => exact ⟨e, List.mem_append_right _ (List.mem_singleton_self e), rfl⟩

theorem mem_entriesAt {e : MappingEntry} : e ∈ entriesAt entries k ↔ e ∈ entries ∧ e.key = k := by
  simp [entriesAt]

/-- An entry is the only one of its row. -/
theorem Unique.entriesAt_eq (h : Unique entries) (he : e ∈ entries) : entriesAt entries e.key = [e] := by
  have hnodup : (entriesAt entries e.key).Nodup := h.rows.of_map.filter _
  refine (List.perm_singleton.1 ((List.perm_ext_iff_of_nodup hnodup (List.nodup_singleton e)).2 fun e' => ?_))
  rw [mem_entriesAt, List.mem_singleton]
  constructor
  · rintro ⟨he', hkey⟩
    exact List.inj_on_of_nodup_map h.rows he' he hkey
  · rintro rfl
    exact ⟨he, rfl⟩

/-! ## The server -/

/-- What the server may do in its own way: with how many digits it stores a time, and what it replies to calls that have
nothing to do with the mapping table. -/
structure Server where
  storedTime : Instant → Instant
  other : (c : SqlCall) → c.Reply

/-- An entry as the server sends it. -/
def MappingEntry.cells (e : MappingEntry) : List SqlCell :=
  [.uuid e.publicId, .text e.entityType, .int e.rowKey, .time e.createdAt]

/-- The entry as the server stores it. -/
def Server.storedEntry (server : Server) (e : MappingEntry) : MappingEntry :=
  { e with createdAt := server.storedTime e.createdAt }

/-- The reply to a call, and the entries after it. -/
def Server.serve (server : Server) (stamp : Stamp) :
    (c : SqlCall) → List MappingEntry → c.Reply × List MappingEntry
  | .run (.entryOf ty pk), entries =>
    let found := entriesAt entries (ty, pk)
    (.ok ⟨found.length, found.map MappingEntry.cells⟩, entries)
  | .run (.insertEntry e), entries =>
    let after := insertNew entries (server.storedEntry e)
    (.ok ⟨after.length - entries.length, []⟩, after)
  | .stamp, entries => (stamp, entries)
  | c, entries => (server.other c, entries)

/-- The entry that a call inserts. -/
def SqlCall.inserts : SqlCall → Option MappingEntry
  | .run (.insertEntry e) => some e
  | _ => none

/-- An entry that is inserted does not bear the public id of another row. -/
def Clear (entries : List MappingEntry) (c : SqlCall) : Prop :=
  ∀ e ∈ c.inserts, ∀ e' ∈ entries, e'.publicId = e.publicId → e'.key = e.key

instance (entries : List MappingEntry) (c : SqlCall) : Decidable (Clear entries c) :=
  inferInstanceAs (Decidable (∀ e ∈ c.inserts, ∀ e' ∈ entries, e'.publicId = e.publicId → e'.key = e.key))

/-- Entries come by insertions only. -/
theorem serve_eq_or (server : Server) (stamp : Stamp) (c : SqlCall) (entries : List MappingEntry) :
    (server.serve stamp c entries).2 = entries ∨
      ∃ e, (server.serve stamp c entries).2 = insertNew entries e := by
  unfold Server.serve
  split
  · exact .inl rfl
  · exact .inr ⟨_, rfl⟩
  · exact .inl rfl
  · exact .inl rfl

theorem Unique.serve (h : Unique entries) (server : Server) (stamp : Stamp) (c : SqlCall) :
    Unique (server.serve stamp c entries).2 := by
  rcases serve_eq_or server stamp c entries with heq | ⟨e, heq⟩
  · rw [heq]
    exact h
  · rw [heq]
    exact h.insertNew e

theorem subset_serve (server : Server) (stamp : Stamp) (c : SqlCall) (entries : List MappingEntry) :
    entries ⊆ (server.serve stamp c entries).2 := by
  rcases serve_eq_or server stamp c entries with heq | ⟨e, heq⟩
  · rw [heq]
    exact List.Subset.refl _
  · rw [heq]
    exact subset_insertNew entries e

/-! ## Programs over a table that grows -/

variable {α β ε : Type} {server : Server} {Q Q' : α → List MappingEntry → Prop}
  {R : β → List MappingEntry → Prop} {n m : Nat}

/-- Within `n` calls the program ends with a result of which `Q` holds, whatever entries come in before each call. -/
def Ensures (server : Server) (Q : α → List MappingEntry → Prop) :
    Program Database α → Nat → List MappingEntry → Prop
  | .done a, _, entries => Q a entries
  | .call c next, n, entries => 0 < n ∧ ∀ (stamp : Stamp) (now : List MappingEntry), Unique now → entries ⊆ now →
      Clear now c → Ensures server Q (next (server.serve stamp c now).1) (n - 1) (server.serve stamp c now).2

namespace Ensures

/-- More calls may be allowed, and less asked for. -/
theorem mono {p : Program Database α} (h : Ensures server Q p n entries) (hn : n ≤ m)
    (hQ : ∀ a entries, Q a entries → Q' a entries) : Ensures server Q' p m entries := by
  induction p generalizing n m entries with
  | done a => exact hQ a entries h
  | call c next ih =>
    obtain ⟨hpos, hnext⟩ := h
    refine ⟨by omega, fun stamp now hnow hsub hclear => ?_⟩
    exact ih _ (hnext stamp now hnow hsub hclear) (by omega)

/-- Entries may come in beforehand. -/
theorem grow {p : Program Database α} (h : Ensures server Q p n entries) (hsub : entries ⊆ entries')
    (hQ : ∀ a, Q a entries → Q a entries') : Ensures server Q p n entries' := by
  cases p with
  | done a => exact hQ a h
  | call c next =>
    obtain ⟨hpos, hnext⟩ := h
    exact ⟨hpos, fun stamp now hnow hsub' => hnext stamp now hnow (List.Subset.trans hsub hsub')⟩

theorem bind {p : Program Database α} {f : α → Program Database β}
    (h : Ensures server (fun a entries => Ensures server R (f a) m entries) p n entries) :
    Ensures server R (p.bind f) (n + m) entries := by
  induction p generalizing n entries with
  | done a =>
    have hf : Ensures server R (f a) m entries := h
    exact hf.mono (Nat.le_add_left m n) fun _ _ hR => hR
  | call c next ih =>
    obtain ⟨hpos, hnext⟩ := h
    refine ⟨by omega, fun stamp now hnow hsub hclear => ?_⟩
    have hrest := ih _ (hnext stamp now hnow hsub hclear)
    refine hrest.mono ?_ fun _ _ hR => hR
    omega

/-- A program that does not fail goes on with what it has found. -/
theorem except_bind {a : ExceptT ε (Program Database) α} {f : α → ExceptT ε (Program Database) β}
    {R : Except ε β → List MappingEntry → Prop}
    (h : Ensures server (fun r entries => ∃ x, r = .ok x ∧ Ensures server R (f x).run m entries) a.run n entries) :
    Ensures server R (a >>= f).run (n + m) entries := by
  rw [ExceptT.run_bind]
  refine bind (h.mono (Nat.le_refl n) ?_)
  rintro _ entries ⟨x, rfl, hx⟩
  exact hx

end Ensures

/-! ## The statements of a caller -/

/-- The look-up finds the first entry of the row in the table as it is then. -/
theorem ensures_entryOf {ty : String} {pk : Int64} {R : Except Fault (Option MappingEntry) → List MappingEntry → Prop}
    (h : ∀ now, entries ⊆ now → R (.ok (entriesAt now (ty, pk)).head?) now) :
    Ensures server R (SqlStore.entryOf ty pk).run 1 entries := by
  refine ⟨Nat.one_pos, fun stamp now _ hsub _ => ?_⟩
  have hR := h now hsub
  simp only [Server.serve]
  cases hfound : entriesAt now (ty, pk) with
  | nil =>
    rw [hfound] at hR
    exact hR
  | cons e rest =>
    rw [hfound] at hR
    exact hR

theorem ensures_stamp {R : Except Fault Stamp → List MappingEntry → Prop}
    (h : ∀ stamp now, entries ⊆ now → R (.ok stamp) now) : Ensures server R Sql.stamp.run 1 entries :=
  ⟨Nat.one_pos, fun stamp now _ hsub _ => h stamp now hsub⟩

/-- After the insertion the row has an entry, be it this one or another. -/
theorem ensures_insertEntry {purpose : String} {e : MappingEntry} {R : Except Fault Nat → List MappingEntry → Prop}
    (h : ∀ n now, (∃ e' ∈ now, e'.key = e.key) → R (.ok n) now) :
    Ensures server R (Sql.execute purpose (.insertEntry e)).run 1 entries := by
  refine ⟨Nat.one_pos, fun stamp now _ _ hclear => ?_⟩
  exact h _ _ (exists_mem_insertNew (e := server.storedEntry e) (hclear e rfl))

/-- The result is an entry of the row, and it is in the table. -/
def Entered (k : String × Int64) (r : Except Fault MappingEntry) (entries : List MappingEntry) : Prop :=
  ∃ e ∈ entries, r = .ok e ∧ e.key = k

theorem Entered.grow {r : Except Fault MappingEntry} (h : Entered k r entries) (hsub : entries ⊆ entries') :
    Entered k r entries' := by
  obtain ⟨e, he, hr⟩ := h
  exact ⟨e, hsub he, hr⟩

theorem entered_of_head? (h : (entriesAt entries k).head? = some e) : Entered k (.ok e) entries := by
  obtain ⟨he, hkey⟩ := mem_entriesAt.1 (List.mem_of_head? h)
  exact ⟨e, he, rfl, hkey⟩

/-- **The entry of a row is in the table when it is returned**, after four calls at most. -/
theorem ensures_entryOrNew (server : Server) (ty : String) (pk : Int64) (entries : List MappingEntry) :
    Ensures server (Entered (ty, pk)) (SqlStore.entryOrNew ty pk).run 4 entries := by
  unfold SqlStore.entryOrNew
  refine Ensures.except_bind (n := 1) (m := 3) (ensures_entryOf fun now _ => ⟨_, rfl, ?_⟩)
  cases hfound : (entriesAt now (ty, pk)).head? with
  | some e => exact entered_of_head? hfound
  | none =>
    refine Ensures.except_bind (n := 1) (m := 2) (ensures_stamp fun stamp now _ => ⟨stamp, rfl, ?_⟩)
    refine Ensures.except_bind (n := 1) (m := 1) (ensures_insertEntry fun n now hrow => ⟨n, rfl, ?_⟩)
    refine Ensures.except_bind (n := 1) (m := 0) (ensures_entryOf fun now' hsub => ⟨_, rfl, ?_⟩)
    cases hback : (entriesAt now' (ty, pk)).head? with
    | some e => exact entered_of_head? hback
    | none =>
      -- the entry that stood in the table after the insertion still does
      obtain ⟨e, he, hkey⟩ := hrow
      rw [List.head?_eq_none_iff] at hback
      have hmem : e ∈ entriesAt now' (ty, pk) := mem_entriesAt.2 ⟨hsub he, hkey⟩
      rw [hback] at hmem
      cases hmem

/-! ## Traffic -/

/-- A caller that has asked for the entry of a row: how many calls it has made, and what is left to do. -/
structure Caller where
  key : String × Int64
  calls : Nat
  rest : Program Database (Except Fault MappingEntry)

/-- The mapping table and all who have asked for entries. -/
structure Traffic where
  entries : List MappingEntry
  callers : List Caller

namespace Traffic

/-- What happens next. -/
inductive Move where
  /-- Someone asks for the entry of a row. -/
  | ask (entityType : String) (pk : Int64)
  /-- The caller at a place makes its next call; the stamp is for a call that wants one. -/
  | advance (place : Nat) (stamp : Stamp)
  /-- Entries are inserted from elsewhere, in one statement. -/
  | insert (es : List MappingEntry)

def step (server : Server) (s : Traffic) : Move → Traffic
  | .ask ty pk => { s with callers := s.callers ++ [⟨(ty, pk), 0, (SqlStore.entryOrNew ty pk).run⟩] }
  | .advance place stamp =>
    match s.callers[place]? with
    | some ⟨key, calls, .call c next⟩ =>
      ⟨(server.serve stamp c s.entries).2,
        s.callers.set place ⟨key, calls + 1, next (server.serve stamp c s.entries).1⟩⟩
    | _ => s
  | .insert es => { s with entries := es.foldl insertNew s.entries }

/-- The traffic after a course of moves, from an empty table on. -/
def run (server : Server) (moves : List Move) : Traffic := moves.foldl (step server) ⟨[], []⟩

/-- The next call of the caller at a place, unless it is through. -/
def next? (s : Traffic) (place : Nat) : Option SqlCall :=
  match s.callers[place]? with
  | some ⟨_, _, .call c _⟩ => some c
  | _ => none

/-- The caller that goes on does not insert an entry under the public id of another row. -/
def ClearAt (s : Traffic) : Move → Prop
  | .advance place _ => ∀ c ∈ s.next? place, Clear s.entries c
  | _ => True

/-- So it is at every move of a course. -/
def ClearAlong (server : Server) : Traffic → List Move → Prop
  | _, [] => True
  | s, move :: moves => s.ClearAt move ∧ ClearAlong server (s.step server move) moves

instance (s : Traffic) : DecidablePred s.ClearAt
  | .ask .. => .isTrue trivial
  | .advance place _ => inferInstanceAs (Decidable (∀ c ∈ s.next? place, Clear s.entries c))
  | .insert _ => .isTrue trivial

instance decidableClearAlong (server : Server) :
    (s : Traffic) → (moves : List Move) → Decidable (ClearAlong server s moves)
  | _, [] => .isTrue trivial
  | s, move :: moves =>
    have := decidableClearAlong server (s.step server move) moves
    inferInstanceAs (Decidable (s.ClearAt move ∧ ClearAlong server (s.step server move) moves))

variable {s : Traffic}

/-- The table keeps its constraints, and every caller is on its way to the entry of its row. -/
structure Sound (server : Server) (s : Traffic) : Prop where
  unique : Unique s.entries
  callers : ∀ c ∈ s.callers, ∃ n, c.calls + n = 4 ∧ Ensures server (Entered c.key) c.rest n s.entries

theorem Sound.start (server : Server) : Sound server ⟨[], []⟩ := ⟨.empty, fun _ h => nomatch h⟩

theorem Sound.ask (h : Sound server s) (ty : String) (pk : Int64) : Sound server (s.step server (.ask ty pk)) where
  unique := h.unique
  callers c hc := by
    rcases List.mem_append.1 hc with hc | hc
    · exact h.callers c hc
    · obtain rfl := List.mem_singleton.1 hc
      exact ⟨4, rfl, ensures_entryOrNew server ty pk _⟩

/-- Entries may come in at any time. -/
theorem Sound.grow (h : Sound server s) (hunique : Unique entries) (hsub : s.entries ⊆ entries) :
    Sound server { s with entries } where
  unique := hunique
  callers c hc := by
    obtain ⟨n, hn, hrest⟩ := h.callers c hc
    exact ⟨n, hn, hrest.grow hsub fun _ hr => hr.grow hsub⟩

theorem Sound.advance (h : Sound server s) {place : Nat} {stamp : Stamp} (hclear : s.ClearAt (.advance place stamp)) :
    Sound server (s.step server (.advance place stamp)) := by
  simp only [step]
  split
  next key calls c next hplace =>
    have hgrown := h.grow (h.unique.serve server stamp c) (subset_serve server stamp c s.entries)
    refine ⟨hgrown.unique, fun caller hcaller => ?_⟩
    rcases List.mem_or_eq_of_mem_set hcaller with hcaller | rfl
    · exact hgrown.callers caller hcaller
    · obtain ⟨n, hn, hpos, hnext⟩ := h.callers _ (List.mem_of_getElem? hplace)
      refine ⟨n - 1, by simp only at hn ⊢; omega, ?_⟩
      have hc : Clear s.entries c := hclear c (by rw [next?, hplace]; rfl)
      exact hnext stamp s.entries h.unique (List.Subset.refl _) hc
  next => exact h

/-- **No move breaks this.** -/
theorem Sound.step (h : Sound server s) {move : Move} (hclear : s.ClearAt move) :
    Sound server (s.step server move) := by
  cases move with
  | ask ty pk => exact h.ask ty pk
  | advance place stamp => exact h.advance hclear
  | insert es => exact h.grow (h.unique.insertAll es) (subset_insertAll s.entries es)

theorem Sound.foldl (h : Sound server s) {moves : List Move} (hclear : ClearAlong server s moves) :
    Sound server (moves.foldl (Traffic.step server) s) := by
  induction moves generalizing s with
  | nil => exact h
  | cons move moves ih => exact ih (h.step hclear.1) hclear.2

/-! ## What callers are given -/

/-- What holds of the callers, whatever has happened. -/
structure Agrees (s : Traffic) : Prop where
  unique : Unique s.entries
  /-- Nobody makes more than four calls; after the fourth one is through. -/
  brief : ∀ c ∈ s.callers, c.calls ≤ 4 ∧ (c.calls = 4 → ∃ r, c.rest = .done r)
  /-- Who is through has an entry, and it is the only one of the row in the table. -/
  entered : ∀ c ∈ s.callers, ∀ r, c.rest = .done r → ∃ e, r = .ok e ∧ entriesAt s.entries c.key = [e]
  /-- All who have asked for one row have the same. -/
  agreed : ∀ c ∈ s.callers, ∀ c' ∈ s.callers, c.key = c'.key →
    ∀ r r', c.rest = .done r → c'.rest = .done r' → r = r'

theorem Sound.agrees (h : Sound server s) : s.Agrees := by
  have hentered : ∀ c ∈ s.callers, ∀ r, c.rest = .done r → ∃ e, r = .ok e ∧ entriesAt s.entries c.key = [e] := by
    intro c hc r hr
    obtain ⟨n, -, hrest⟩ := h.callers c hc
    rw [hr] at hrest
    obtain ⟨e, he, rfl, hkey⟩ := hrest
    exact ⟨e, rfl, hkey ▸ h.unique.entriesAt_eq he⟩
  refine ⟨h.unique, fun c hc => ?_, hentered, fun c hc c' hc' hkey r r' hr hr' => ?_⟩
  · obtain ⟨n, hn, hrest⟩ := h.callers c hc
    refine ⟨by omega, fun hcalls => ?_⟩
    cases hdone : c.rest with
    | done r => exact ⟨r, rfl⟩
    | call call next =>
      rw [hdone] at hrest
      obtain ⟨hpos, -⟩ := hrest
      omega
  · obtain ⟨e, rfl, he⟩ := hentered c hc r hr
    obtain ⟨e', rfl, he'⟩ := hentered c' hc' r' hr'
    rw [← hkey, he] at he'
    rw [(List.cons.inj he').1]

end Traffic

/-- **No race for an entry is lost.** Whatever the order of the statements, and whatever is inserted in between, every
caller that is through has the one entry of its row, if ids that are drawn are not those of other rows. -/
theorem entryOrNew_raceFree (server : Server) (moves : List Traffic.Move)
    (hclear : Traffic.ClearAlong server ⟨[], []⟩ moves) : (Traffic.run server moves).Agrees :=
  ((Traffic.Sound.start server).foldl hclear).agrees

/-- A server that stores microseconds. -/
def Server.micros : Server where
  storedTime t := ⟨t.seconds, t.nanos / 1000 * 1000⟩
  other
    | .connect _ | .begin | .commit => .ok ()
    | .rollback => ()
    | .run _ => .error "relation does not exist"
    | .flag => false
    | .stamp => ⟨.zeroV4, ⟨0, 0⟩⟩

/-- The id that the `n`-th moment draws, at another time. -/
def Stamp.counted (n : Nat) (time : Instant) : Stamp := ⟨(Moment.counted n).draw, time⟩

/-- Two callers that both find no entry of the first widget; the second one inserts first, and an entry of another
widget comes in before. -/
def Traffic.race : List Traffic.Move :=
  let idle := Stamp.counted 0 ⟨0, 0⟩
  [.ask "shop.widget" 1, .ask "shop.widget" 1, .advance 0 idle, .advance 1 idle,
    .advance 0 (.counted 1 ⟨7, 1500⟩), .advance 1 (.counted 2 ⟨8, 2500⟩),
    .insert [⟨(Moment.counted 3).draw, "shop.widget", 2, ⟨6, 0⟩⟩], .advance 1 idle, .advance 0 idle, .advance 0 idle,
    .advance 1 idle]

/-- Both have the entry of the second caller, as it is stored. -/
theorem entryOrNew_raceFree_widgets : (Traffic.run .micros Traffic.race).Agrees ∧
    (Traffic.run .micros Traffic.race).callers.map Caller.rest =
      List.replicate 2 (.done (.ok ⟨(Moment.counted 2).draw, "shop.widget", 1, ⟨8, 2000⟩⟩)) :=
  ⟨entryOrNew_raceFree .micros Traffic.race (by decide +kernel), rfl⟩

end RowIdentity
