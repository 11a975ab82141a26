import RowIdentity.Backfill
import RowIdentity.Proofs.Sql.Replies

/-!
# What the server was told of each key

* `Settled` — the three ends a key may come to in its batch: the server reports it as mapped, its row is not among those
  that the server finds, or it is bound in an insertion that the server carried out and committed;
* `settled_of_batch` — a batch that ends well settles all its keys, and **nothing in it failed**;
* `Scan` — the dialogue of a model: listings of keys, each with its batch behind it;
* `scan_of_pages` — **a report without failures comes from a scan**.
-/

namespace RowIdentity

open Program

variable {registry : Registry} {ty table : String} {pks : List Int64} {d : List (Exchange Database)}

/-! ## One batch -/

/-- The end that a key has come to in the dialogue of its batch. -/
inductive Settled (ty table : String) (batch : List (Exchange Database)) (pk : Int64) : Prop
  | mapped {asked : List Int64} {r : SqlResult} {keys : List Int64} : .told (.mapped ty asked) r ∈ batch →
      r.Keys keys → pk ∈ keys → Settled ty table batch pk
  | vanished {asked : List Int64} {r : SqlResult} {keys : List Int64} : .told (.existing table asked) r ∈ batch →
      pk ∈ asked → r.Keys keys → pk ∉ keys → Settled ty table batch pk
  | inserted {es : List MappingEntry} {r : SqlResult} {e : MappingEntry} :
      [.began, .told (.insertEntries es) r, .committed] <:+: batch →
      e ∈ es → e.entityType = ty → e.rowKey = pk → Settled ty table batch pk

/-- Each entry takes a stamp and is about its key. -/
theorem Says.newEntries {es : List MappingEntry} (h : Says registry (pks.mapM (Store.newEntry ty)) d es) :
    Smooth d ∧ ∀ pk ∈ pks, ∃ e ∈ es, e.entityType = ty ∧ e.rowKey = pk := by
  induction pks generalizing d es with
  | nil =>
    rw [List.mapM_nil] at h
    obtain ⟨rfl, rfl⟩ := Says.pure_inv h
    exact ⟨.nil, fun _ hpk => nomatch hpk⟩
  | cons pk pks ih =>
    rw [List.mapM_cons] at h
    obtain ⟨first, later, e, rfl, hentry, hlater⟩ := Says.bind_inv h
    obtain ⟨rest, final, es', rfl, hentries, hfinal⟩ := Says.bind_inv hlater
    obtain ⟨rfl, rfl⟩ := Says.pure_inv hfinal
    obtain ⟨t, _, rfl, rfl, heq⟩ := hentry
    cases heq
    obtain ⟨hsmooth, hkeys⟩ := ih hentries
    refine ⟨?_, ?_⟩
    · rw [List.append_nil]
      exact hsmooth.cons (Exchange.plain_stamped t)
    · rintro pk' (_ | ⟨_, hpk'⟩)
      · exact ⟨_, List.mem_cons_self, rfl, rfl⟩
      · obtain ⟨e, he, hkey⟩ := hkeys pk' hpk'
        exact ⟨e, List.mem_cons_of_mem _ he, hkey⟩

theorem Says.mapped {mapped : List Int64} (h : Says registry (Store.mapped ty pks) d mapped) :
    ∃ r found, d = [.told (.mapped ty pks) r] ∧ r.Keys found ∧ ∀ pk, pk ∈ mapped ↔ pk ∈ found := by
  obtain ⟨r, found, rfl, hkeys, rfl⟩ := SqlStore.mapped_inv (Says.ask_inv h)
  exact ⟨r, found, rfl, hkeys, fun pk => List.mem_eraseDups⟩

theorem Says.existing {existing : List Int64} (h : Says registry (Store.existing ty pks) d existing) :
    ∃ table r found, SqlStore.table registry ty = .ok table ∧ d = [.told (.existing table pks) r] ∧ r.Keys found ∧
      ∀ pk, pk ∈ existing ↔ pk ∈ found := by
  obtain ⟨table, r, found, htable, rfl, hkeys, rfl⟩ := SqlStore.existing_inv (Says.ask_inv h)
  exact ⟨table, r, found, htable, rfl, hkeys, fun pk => List.mem_eraseDups⟩

theorem Says.insertEntries {es : List MappingEntry} {n : Nat} (h : Says registry (Store.insertEntries es) d n) :
    Smooth d ∧ (es ≠ [] → ∃ r, d = [.began, .told (.insertEntries es) r, .committed]) := by
  rcases SqlStore.insertEntries_inv (Says.ask_inv h) with ⟨rfl, rfl⟩ | ⟨r, rfl⟩
  · exact ⟨.nil, fun hne => absurd rfl hne⟩
  · refine ⟨?_, fun _ => ⟨r, rfl⟩⟩
    exact .cons Exchange.plain_began (.cons (Exchange.plain_told (by simp) r) (.cons Exchange.plain_committed .nil))

/-- The keys of a batch that are not mapped, as far as it goes: they are sought, and those that are found are
inserted. -/
theorem settled_of_missing {missing survivors : List Int64} {existing : List Int64} {es : List MappingEntry} {n : Nat}
    {asked drawn inserted : List (Exchange Database)} (htable : SqlStore.table registry ty = .ok table)
    (hexisting : Says registry (Store.existing ty missing) asked existing)
    (hsurvivors : survivors = missing.filter existing.contains)
    (hentries : Says registry (survivors.mapM (Store.newEntry ty)) drawn es)
    (hinsert : Says registry (Store.insertEntries es) inserted n) :
    Smooth (asked ++ (drawn ++ inserted)) ∧
      ∀ before pk, pk ∈ missing → Settled ty table (before ++ (asked ++ (drawn ++ inserted))) pk := by
  obtain ⟨table', r, found, htable', rfl, hkeys, hmem⟩ := Says.existing hexisting
  obtain rfl : table = table' := Except.ok.inj (htable.symm.trans htable')
  obtain ⟨hdrawn, hentered⟩ := Says.newEntries hentries
  obtain ⟨hinserted, hcommitted⟩ := Says.insertEntries hinsert
  refine ⟨(Smooth.nil.cons (Exchange.plain_told (by simp) r)).append (hdrawn.append hinserted), fun before pk hpk => ?_⟩
  by_cases hfound : pk ∈ found
  · have hsurvives : pk ∈ survivors := by
      rw [hsurvivors]
      exact List.mem_filter.2 ⟨hpk, by simpa using (hmem pk).2 hfound⟩
    obtain ⟨e, he, hty, hkey⟩ := hentered pk hsurvives
    obtain ⟨r', rfl⟩ := hcommitted (List.ne_nil_of_mem he)
    have hpart : [.began, .told (.insertEntries es) r', .committed] <:+:
        before ++ ([.told (.existing table missing) r] ++
          (drawn ++ [.began, .told (.insertEntries es) r', .committed])) :=
      ⟨before ++ [.told (.existing table missing) r] ++ drawn, [], by simp⟩
    exact .inserted hpart he hty hkey
  · exact .vanished (by simp) hpk hkeys hfound

/-- **A batch that ends well settles all its keys.** -/
theorem settled_of_batch {o : BatchOutcome} (htable : SqlStore.table registry ty = .ok table)
    (h : Says registry (backfillBatch ty false pks) d o) : Smooth d ∧ ∀ pk ∈ pks, Settled ty table d pk := by
  obtain ⟨_, rest, mapped, rfl, hmapped, hrest⟩ := Says.bind_inv h
  obtain ⟨r, found, rfl, hkeys, hmem⟩ := Says.mapped hmapped
  have hasked : Smooth [.told (.mapped ty pks) r] := Smooth.nil.cons (Exchange.plain_told (by simp) r)
  have hreported : ∀ pk ∈ mapped, Settled ty table ([.told (.mapped ty pks) r] ++ rest) pk := fun pk hpk =>
    .mapped (List.mem_append_left _ List.mem_cons_self) hkeys ((hmem pk).1 hpk)
  -- the keys that are not reported as mapped
  set missing := pks.filter fun pk => !mapped.contains pk
  have hsplit : ∀ pk ∈ pks, pk ∈ mapped ∨ pk ∈ missing := by
    intro pk hpk
    by_cases hpk' : pk ∈ mapped
    · exact .inl hpk'
    · exact .inr (List.mem_filter.2 ⟨hpk, by simpa using hpk'⟩)
  dsimp only at hrest
  split at hrest
  next hnone =>
    obtain ⟨rfl, -⟩ := Says.pure_inv hrest
    refine ⟨hasked.append .nil, fun pk hpk => hreported pk ?_⟩
    have hempty := List.isEmpty_iff.1 hnone
    exact (hsplit pk hpk).resolve_right (by simp [hempty])
  next =>
    obtain ⟨asked, rest, existing, rfl, hexisting, hrest⟩ := Says.bind_inv hrest
    obtain ⟨drawn, rest, es, rfl, hentries, hrest⟩ := Says.bind_inv hrest
    obtain ⟨inserted, rest, n, rfl, hinsert, hrest⟩ := Says.bind_inv hrest
    obtain ⟨rfl, -⟩ := Says.pure_inv hrest
    rw [List.append_nil] at hreported ⊢
    obtain ⟨hsmooth, hsettled⟩ := settled_of_missing htable hexisting rfl hentries hinsert
    refine ⟨hasked.append hsmooth, fun pk hpk => ?_⟩
    rcases hsplit pk hpk with hpk | hpk
    · exact hreported pk hpk
    · exact hsettled _ pk hpk

/-! ## Page after page -/

/-- A reply that reads as these keys, and their batch. -/
structure SettledPage (ty table : String) (r : SqlResult) (pks : List Int64) (batch : List (Exchange Database)) :
    Prop where
  keys : r.Keys pks
  smooth : Smooth batch
  settled : ∀ pk ∈ pks, Settled ty table batch pk

/-- The dialogue of a model from a cursor on: a listing of at most `batchSize` keys with their batch, and as long as the
listing was full the same again from its last key on. -/
inductive Scan (ty table : String) (batchSize : Nat) : Option Int64 → List (Exchange Database) → Prop
  | last {cursor : Option Int64} {r : SqlResult} {pks : List Int64} {batch : List (Exchange Database)} :
      SettledPage ty table r pks batch → pks.length < batchSize →
      Scan ty table batchSize cursor (.told (.keys table cursor (RowSelect.word batchSize)) r :: batch)
  | full {cursor : Option Int64} {r : SqlResult} {pks : List Int64} {final : Int64}
      {batch rest : List (Exchange Database)} :
      SettledPage ty table r pks batch → batchSize ≤ pks.length → pks.getLast? = some final →
      Scan ty table batchSize (some final) rest →
      Scan ty table batchSize cursor
        (.told (.keys table cursor (RowSelect.word batchSize)) r :: (batch ++ rest))

/-- Nothing fails in the course of a scan. -/
theorem Scan.not_failed {batchSize : Nat} {cursor : Option Int64} (h : Scan ty table batchSize cursor d) :
    ∀ x ∈ d, ¬ x.Failed := by
  induction h with
  | last hpage _ =>
    exact List.forall_mem_cons.2 ⟨Exchange.not_failed_told _ _, fun x hx => (hpage.smooth x hx).carried⟩
  | full hpage _ _ _ ih =>
    refine List.forall_mem_cons.2 ⟨Exchange.not_failed_told _ _, ?_⟩
    exact List.forall_mem_append.2 ⟨fun x hx => (hpage.smooth x hx).carried, ih⟩

theorem Says.keys {after : Option Int64} {limit : Nat} (h : Says registry (Store.keys ty after limit) d pks) :
    ∃ table r, SqlStore.table registry ty = .ok table ∧ d = [.told (.keys table after (RowSelect.word limit)) r] ∧
      r.Keys pks :=
  SqlStore.keys_inv (Says.ask_inv h)

/-- A report is complete when it was and the batch did not fail. -/
theorem BackfillReport.isComplete_record {report : BackfillReport} {first last : Int64}
    {outcome : Except Fault BatchOutcome} (h : (report.record first last pks outcome).isComplete = true) :
    (∃ o, outcome = .ok o) ∧ report.isComplete = true := by
  cases outcome with
  | ok o => exact ⟨⟨o, rfl⟩, h⟩
  | error f => simp [record, isComplete] at h

theorem BackfillReport.model_record (report : BackfillReport) (first last : Int64) (pks : List Int64)
    (outcome : Except Fault BatchOutcome) : (report.record first last pks outcome).model = report.model := by
  cases outcome with
  | ok o => rfl
  | error f => rfl

theorem BackfillReport.dryRun_record (report : BackfillReport) (first last : Int64) (pks : List Int64)
    (outcome : Except Fault BatchOutcome) : (report.record first last pks outcome).dryRun = report.dryRun := by
  cases outcome with
  | ok o => rfl
  | error f => rfl

/-- **A report without failures comes from a scan.** The induction is on the number of pages that may follow: a batch
that failed would be in the report for good. -/
theorem scan_of_pages {batchSize pages : Nat} {cursor : Option Int64} {report final : BackfillReport}
    (hsize : 0 < batchSize) (hdry : report.dryRun = false)
    (h : Says registry (backfillPages batchSize pages cursor report) d final) (hcomplete : final.isComplete = true) :
    report.isComplete = true ∧
      ∃ table, SqlStore.table registry report.model = .ok table ∧ Scan report.model table batchSize cursor d := by
  induction pages generalizing cursor report d with
  | zero => exact absurd h Says.not_throw
  | succ pages ih =>
    obtain ⟨_, rest, pks, rfl, hkeys, hrest⟩ := Says.bind_inv h
    obtain ⟨table, r, htable, rfl, hread⟩ := Says.keys (Says.toAction_inv hkeys)
    split at hrest
    next first last hfirst hlast =>
      obtain ⟨batch, rest, outcome, rfl, hbatch, hrest⟩ := Says.bind_inv hrest
      -- the report goes on growing, so that it tells in the end whether this batch failed
      have hgood : (report.record first last pks outcome).isComplete = true →
          SettledPage report.model table r pks batch ∧ report.isComplete = true := by
        intro hrecord
        obtain ⟨⟨o, rfl⟩, hreport⟩ := BackfillReport.isComplete_record hrecord
        rw [hdry] at hbatch
        obtain ⟨hsmooth, hsettled⟩ := settled_of_batch htable (Says.lift_inv hbatch)
        exact ⟨⟨hread, hsmooth, hsettled⟩, hreport⟩
      split at hrest
      next hshort =>
        obtain ⟨rfl, rfl⟩ := Says.pure_inv hrest
        obtain ⟨hpage, hreport⟩ := hgood hcomplete
        rw [List.append_nil]
        exact ⟨hreport, table, htable, .last hpage hshort⟩
      next hfull =>
        obtain ⟨hrecord, table', htable', hscan⟩ := ih (by rwa [BackfillReport.dryRun_record]) hrest
        obtain ⟨hpage, hreport⟩ := hgood hrecord
        rw [BackfillReport.model_record] at htable' hscan
        obtain rfl : table = table' := Except.ok.inj (htable.symm.trans htable')
        rw [List.singleton_append]
        exact ⟨hreport, table, htable, .full hpage (Nat.not_lt.1 hfull) hlast hscan⟩
    next hnone =>
      obtain ⟨rfl, rfl⟩ := Says.pure_inv hrest
      obtain rfl : pks = [] := by
        cases pks with
        | nil => rfl
        | cons pk pks => exact (hnone pk _ rfl (List.getLast?_eq_some_getLast (by simp))).elim
      exact ⟨hcomplete, table, htable, .last ⟨hread, .nil, fun _ hpk => nomatch hpk⟩ hsize⟩

end RowIdentity
