import RowIdentity.Proofs.Disturbance.Batch

/-!
# Batch after batch on a database whose calls may fail

* `batchesOf` — some keys, batch by batch;
* `Regular.keysFrom_some` — beyond the last key of a page there is the rest of the keys;
* `batchFails` — whether a call about a key of a batch is due to fail;
* `Covered`, `Covered.append` — what a backfill has done with some batches, and with those that follow;
* `Disturbed.covers_backfillPages` — by induction on the pages, **all batches from a cursor on are covered**.
-/

namespace RowIdentity

variable {registry : Registry} {moments : Nat → Moment} {d : Disturbance} {m m' : Memory} {ty : String}
  {cursor : Option Int64} {batchSize : Nat} {keys pks : List Int64}

/-! ## Keys in batches -/

/-- The batches of some keys: all of the given size, but for the last one, which may be smaller. -/
def batchesOf (batchSize : Nat) (keys : List Int64) : List (List Int64) :=
  (List.range ((keys.length + batchSize - 1) / batchSize)).map fun i => (keys.drop (i * batchSize)).take batchSize

theorem length_batchesOf (batchSize : Nat) (keys : List Int64) :
    (batchesOf batchSize keys).length = (keys.length + batchSize - 1) / batchSize := by
  rw [batchesOf, List.length_map, List.length_range]

theorem batchesOf_nil (hbatch : 0 < batchSize) : batchesOf batchSize [] = [] := by
  have hnone : (0 + batchSize - 1) / batchSize = 0 := Nat.div_eq_of_lt (by omega)
  rw [batchesOf, List.length_nil, hnone]
  rfl

/-- The first batch, and the batches of the rest. -/
theorem batchesOf_of_ne_nil (hbatch : 0 < batchSize) (hkeys : keys ≠ []) :
    batchesOf batchSize keys = keys.take batchSize :: batchesOf batchSize (keys.drop batchSize) := by
  have hpos := List.length_pos_iff.2 hkeys
  have hcount : (keys.length + batchSize - 1) / batchSize =
      ((keys.drop batchSize).length + batchSize - 1) / batchSize + 1 := by
    have hone : keys.length + batchSize - 1 = keys.length - 1 + batchSize := by omega
    rw [hone, Nat.add_div_right _ hbatch, List.length_drop]
    rcases Nat.lt_or_ge keys.length batchSize with hlt | hge
    · rw [Nat.div_eq_of_lt (by omega), Nat.div_eq_of_lt (by omega)]
    · congr 2
      omega
  have hnext : ∀ i, (i + 1) * batchSize = batchSize + i * batchSize := fun i => by rw [Nat.succ_mul, Nat.add_comm]
  simp only [batchesOf, hcount, List.range_succ_eq_map, List.map_cons, List.map_map, Function.comp_def, hnext,
    List.drop_drop, Nat.zero_mul, List.drop_zero]

/-- The batches are all of the keys, in order. -/
theorem flatten_batchesOf (hbatch : 0 < batchSize) (keys : List Int64) : (batchesOf batchSize keys).flatten = keys := by
  induction hn : keys.length using Nat.strong_induction_on generalizing keys with
  | _ n ih =>
    by_cases hkeys : keys = []
    · rw [hkeys, batchesOf_nil hbatch]
      rfl
    · have hpos := List.length_pos_iff.2 hkeys
      rw [batchesOf_of_ne_nil hbatch hkeys, List.flatten_cons, ih _ _ _ rfl, List.take_append_drop]
      rw [List.length_drop]
      omega

namespace Memory

/-- The keys of a model beyond a cursor. -/
def keysFrom (m : Memory) (ty : String) (cursor : Option Int64) : List Int64 :=
  (Assoc.keys (m.table ty)).filter fun pk => cursor.all (· < pk)

theorem keysFrom_none (m : Memory) (ty : String) : m.keysFrom ty none = Assoc.keys (m.table ty) :=
  List.filter_eq_self.2 fun _ _ => rfl

theorem isSome_row?_of_mem_keysFrom {pk : Int64} (h : pk ∈ m.keysFrom ty cursor) : (m.row? ty pk).isSome = true := by
  rw [Option.isSome_iff_ne_none]
  exact fun hnone => (Assoc.get?_eq_none_iff _ _).1 hnone (List.mem_of_mem_filter h)

theorem Regular.pairwise_keysFrom (hm : m.Regular) (ty : String) (cursor : Option Int64) :
    (m.keysFrom ty cursor).Pairwise (· < ·) :=
  (hm.ascending ty).sublist List.filter_sublist

theorem Regular.nodup_keysFrom (hm : m.Regular) (ty : String) (cursor : Option Int64) : (m.keysFrom ty cursor).Nodup :=
  (hm.pairwise_keysFrom ty cursor).imp fun hlt => Int64.ne_of_lt hlt

/-- **Beyond the last key of a page there is the rest of the keys.** -/
theorem Regular.keysFrom_some (hm : m.Regular) {last : Int64}
    (hlast : ((m.keysFrom ty cursor).take batchSize).getLast? = some last) :
    m.keysFrom ty (some last) = (m.keysFrom ty cursor).drop batchSize := by
  have hmem : last ∈ m.keysFrom ty cursor := List.mem_of_mem_take (List.mem_of_getLast? hlast)
  have hbeyond : m.keysFrom ty (some last) = (m.keysFrom ty cursor).filter fun pk => last < pk := by
    unfold keysFrom
    rw [List.filter_filter]
    refine List.filter_congr fun pk _ => Bool.eq_iff_iff.2 ⟨fun hlt => Bool.and_eq_true_iff.2 ⟨hlt, ?_⟩, fun h => ?_⟩
    · exact all_lt_trans (List.mem_filter.1 hmem).2 (of_decide_eq_true hlt)
    · exact (Bool.and_eq_true_iff.1 h).1
  have hpair := hm.pairwise_keysFrom ty cursor
  rw [← List.take_append_drop batchSize (m.keysFrom ty cursor)] at hpair
  obtain ⟨hpage, -, hrest⟩ := List.pairwise_append.1 hpair
  conv_lhs => rw [hbeyond, ← List.take_append_drop batchSize (m.keysFrom ty cursor), List.filter_append]
  rw [List.filter_eq_nil_iff.2, List.filter_eq_self.2, List.nil_append]
  · exact fun pk hpk => decide_eq_true (hrest last (List.mem_of_getLast? hlast) pk hpk)
  · intro pk hpk hlt
    have hlt := of_decide_eq_true hlt
    rcases eq_or_lt_of_getLast? hpage hlast hpk with rfl | hgt
    · exact Int64.lt_irrefl hlt
    · exact Int64.lt_asymm hlt hgt

end Memory

/-! ## Batches that fail -/

/-- Whether one of the calls that are about a key of the batch is due to fail. -/
def batchFails (d : Disturbance) (steps : List (BackendCall × Disturbed)) (pks : List Int64) : Bool :=
  steps.any fun x => d.Fails x.1 x.2 && x.1.about.any pks.contains

section

variable {steps steps' : List (BackendCall × Disturbed)}

/-- Calls about other keys do not make a batch fail. -/
theorem batchFails_of_disjoint (habout : ∀ x ∈ steps, x.1.about ⊆ keys) (hother : keys.Disjoint pks) :
    batchFails d steps pks = false := by
  refine List.any_eq_false.2 fun x hx h => ?_
  obtain ⟨k, hk, hpk⟩ := List.any_eq_true.1 (Bool.and_eq_true_iff.1 h).2
  exact hother (habout x hx hk) (List.contains_iff_mem.1 hpk)

theorem batchFails_of_mem {x : BackendCall × Disturbed} (hx : x ∈ steps) (hfails : d.Fails x.1 x.2 = true)
    (hne : x.1.about ≠ []) (habout : x.1.about ⊆ pks) : batchFails d steps pks = true := by
  obtain ⟨k, hk⟩ := List.exists_mem_of_ne_nil _ hne
  refine List.any_eq_true.2 ⟨x, hx, Bool.and_eq_true_iff.2 ⟨hfails, ?_⟩⟩
  exact List.any_eq_true.2 ⟨k, hk, List.contains_iff_mem.2 (habout hk)⟩

theorem batchFails_of_not_fails (hnone : ∀ x ∈ steps, d.Fails x.1 x.2 = false) (pks : List Int64) :
    batchFails d steps pks = false := by
  refine List.any_eq_false.2 fun x hx => ?_
  rw [hnone x hx]
  exact Bool.false_ne_true

variable {bs bs' : List (List Int64)}

/-- The batches that fail. -/
def failingBatches (d : Disturbance) (steps : List (BackendCall × Disturbed)) (bs : List (List Int64)) :
    List (List Int64) :=
  bs.filter (batchFails d steps)

/-- The keys of the batches that do not fail. -/
def soundKeys (d : Disturbance) (steps : List (BackendCall × Disturbed)) (bs : List (List Int64)) : List Int64 :=
  (bs.filter fun pks => !batchFails d steps pks).flatten

theorem soundKeys_subset (d : Disturbance) (steps : List (BackendCall × Disturbed)) (bs : List (List Int64)) :
    soundKeys d steps bs ⊆ bs.flatten :=
  List.filter_sublist.flatten.subset

/-- If no call fails, no batch does. -/
theorem failingBatches_of_not_fails (hnone : ∀ x ∈ steps, d.Fails x.1 x.2 = false) :
    failingBatches d steps bs = [] := by
  refine List.filter_eq_nil_iff.2 fun pks _ => ?_
  rw [batchFails_of_not_fails hnone]
  exact Bool.false_ne_true

theorem soundKeys_of_not_fails (hnone : ∀ x ∈ steps, d.Fails x.1 x.2 = false) :
    soundKeys d steps bs = bs.flatten := by
  refine congrArg List.flatten (List.filter_eq_self.2 fun pks _ => ?_)
  rw [batchFails_of_not_fails hnone]
  rfl

theorem length_soundKeys_add (d : Disturbance) (steps : List (BackendCall × Disturbed)) (bs : List (List Int64)) :
    (soundKeys d steps bs).length + (failingBatches d steps bs).flatten.length = bs.flatten.length := by
  induction bs with
  | nil => rfl
  | cons pks bs ih =>
    simp only [soundKeys, failingBatches, List.length_flatten, List.filter_cons, List.map_cons, List.sum_cons] at ih ⊢
    cases batchFails d steps pks with
    | true =>
      simp only [Bool.not_true, Bool.false_eq_true, if_false, if_true, List.map_cons, List.sum_cons]
      omega
    | false =>
      simp only [Bool.not_false, Bool.false_eq_true, if_false, if_true, List.map_cons, List.sum_cons]
      omega

section Append

variable (habout : ∀ x ∈ steps, x.1.about ⊆ bs.flatten) (habout' : ∀ x ∈ steps', x.1.about ⊆ bs'.flatten)
  (hnodup : (bs ++ bs').flatten.Nodup)

include habout habout' hnodup

/-- A batch fails by calls of its own. -/
theorem batchFails_append :
    (∀ pks ∈ bs, batchFails d (steps ++ steps') pks = batchFails d steps pks) ∧
      ∀ pks ∈ bs', batchFails d (steps ++ steps') pks = batchFails d steps' pks := by
  have happend : ∀ pks, batchFails d (steps ++ steps') pks = (batchFails d steps pks || batchFails d steps' pks) :=
    fun _ => List.any_append
  rw [List.flatten_append] at hnodup
  have hdisj := List.disjoint_of_nodup_append hnodup
  constructor
  · intro pks hpks
    rw [happend, batchFails_of_disjoint habout' fun k hk hpk => hdisj (List.mem_flatten.2 ⟨pks, hpks, hpk⟩) hk,
      Bool.or_false]
  · intro pks hpks
    rw [happend, batchFails_of_disjoint habout fun k hk hpk => hdisj hk (List.mem_flatten.2 ⟨pks, hpks, hpk⟩),
      Bool.false_or]

theorem failingBatches_append :
    failingBatches d (steps ++ steps') (bs ++ bs') = failingBatches d steps bs ++ failingBatches d steps' bs' := by
  obtain ⟨hleft, hright⟩ := batchFails_append (d := d) habout habout' hnodup
  unfold failingBatches
  rw [List.filter_append, List.filter_congr hleft, List.filter_congr hright]

theorem soundKeys_append :
    soundKeys d (steps ++ steps') (bs ++ bs') = soundKeys d steps bs ++ soundKeys d steps' bs' := by
  obtain ⟨hleft, hright⟩ := batchFails_append (d := d) habout habout' hnodup
  unfold soundKeys
  rw [List.filter_append, List.flatten_append, List.filter_congr fun pks hpks => congrArg (!·) (hleft pks hpks),
    List.filter_congr fun pks hpks => congrArg (!·) (hright pks hpks)]

end Append

/-! ## What has been done with some batches -/

/-- The failure of a batch carries its first key, its last key and all of its keys, and tells which kind of call has
failed. -/
structure BatchFailure.Of (ty : String) (pks : List Int64) (f : BatchFailure) : Prop where
  model : f.model = ty
  first : pks.head? = some f.firstKey
  last : pks.getLast? = some f.lastKey
  keys : f.keys = pks
  cause : ∃ kind, f.cause = (lostConnection kind).chain

/-- What a backfill has done with some batches: behind the failures there are those of the batches that fail, and the
rows without an entry of the other batches have got one each. -/
structure Covered (d : Disturbance) (ty : String) (bs : List (List Int64)) (steps : List (BackendCall × Disturbed))
    (m : Memory) (r : BackfillReport) (m' : Memory) (r' : BackfillReport) : Prop where
  about : ∀ x ∈ steps, x.1.about ⊆ bs.flatten
  batches : r'.batches = r.batches + bs.length
  scanned : r'.scanned = r.scanned + bs.flatten.length
  vanished : r'.vanished = r.vanished
  accounted : r'.created + r'.alreadyMapped = r.created + r.alreadyMapped + (soundKeys d steps bs).length
  failures : ∃ fs, r'.failures = r.failures ++ fs ∧ List.Forall₂ (BatchFailure.Of ty) (failingBatches d steps bs) fs
  entries : ∃ es : List MappingEntry, es.map MappingEntry.key = (m.missing ty (soundKeys d steps bs)).map (ty, ·) ∧
    m.mappings.Fits es ∧ r'.created = r.created + es.length ∧ m' = { m with mappings := m.mappings.addAll es }

namespace Covered

variable {m₁ : Memory} {r r₁ r' : BackfillReport}

/-- Nothing has been done with no batch. -/
theorem nil (habout : ∀ x ∈ steps, x.1.about = []) : Covered d ty [] steps m r m r where
  about := fun x hx => (habout x hx).symm ▸ List.nil_subset _
  batches := rfl
  scanned := rfl
  vanished := rfl
  accounted := rfl
  failures := ⟨[], (List.append_nil _).symm, .nil⟩
  entries := ⟨[], rfl, trivial, rfl, rfl⟩

/-- The rows of other batches have no more entries than before. -/
theorem missing_eq (h : Covered d ty bs steps m r m' r') (hother : bs.flatten.Disjoint pks) :
    m'.missing ty pks = m.missing ty pks := by
  obtain ⟨es, hes, -, -, rfl⟩ := h.entries
  rw [Memory.missing_eq_filter, Memory.missing_eq_filter]
  refine List.filter_congr fun pk hpk => congrArg Option.isNone (MappingTable.idOf?_addAll_of_not_mem fun hkey => ?_)
  rw [hes] at hkey
  obtain ⟨k, hk, heq⟩ := List.mem_map.1 hkey
  obtain rfl : k = pk := (Prod.mk.inj heq).2
  rw [Memory.missing_eq_filter] at hk
  exact hother (soundKeys_subset d steps bs (List.mem_of_mem_filter hk)) hpk

theorem regular (h : Covered d ty bs steps m r m' r') (hm : m.Regular) : m'.Regular := by
  obtain ⟨es, -, hfits, -, rfl⟩ := h.entries
  exact hm.of_parts rfl (hm.coherent.addAll hfits)

/-- The entries might have been inserted together. -/
theorem reachable (h : Covered d ty bs steps m r m' r') (hm : Memory.Reachable registry m) :
    Memory.Reachable registry m' := by
  obtain ⟨es, -, hfits, -, rfl⟩ := h.entries
  have hinsert : (m.insertEntries es).2 = { m with mappings := m.mappings.addAll es } :=
    congrArg Prod.snd (Memory.insertEntries_of_fits hfits)
  rw [← hinsert]
  exact .answer true .start (.insertEntries es) hm

theorem keysFrom_eq (h : Covered d ty bs steps m r m' r') (ty' : String) (cursor : Option Int64) :
    m'.keysFrom ty' cursor = m.keysFrom ty' cursor := by
  obtain ⟨es, -, -, -, rfl⟩ := h.entries
  rfl

/-- **Some batches, and those that follow.** -/
theorem append (h : Covered d ty bs steps m r m₁ r₁) (h' : Covered d ty bs' steps' m₁ r₁ m' r')
    (hnodup : (bs ++ bs').flatten.Nodup) : Covered d ty (bs ++ bs') (steps ++ steps') m r m' r' := by
  have hfailing := failingBatches_append (d := d) h.about h'.about hnodup
  have hsound := soundKeys_append (d := d) h.about h'.about hnodup
  rw [List.flatten_append] at hnodup
  have hdisj := List.disjoint_of_nodup_append hnodup
  refine ⟨fun x hx => ?_, ?_, ?_, h'.vanished.trans h.vanished, ?_, ?_, ?_⟩
  · rw [List.flatten_append]
    rcases List.mem_append.1 hx with hx | hx
    · exact List.subset_append_of_subset_left _ (h.about x hx)
    · exact List.subset_append_of_subset_right _ (h'.about x hx)
  · rw [h'.batches, h.batches, List.length_append, Nat.add_assoc]
  · rw [h'.scanned, h.scanned, List.flatten_append, List.length_append, Nat.add_assoc]
  · rw [h'.accounted, h.accounted, hsound, List.length_append, Nat.add_assoc]
  · obtain ⟨fs, hfs, hof⟩ := h.failures
    obtain ⟨fs', hfs', hof'⟩ := h'.failures
    exact ⟨fs ++ fs', by rw [hfs', hfs, List.append_assoc], hfailing ▸ List.rel_append hof hof'⟩
  · obtain ⟨es', hes', hfits', hcreated', hm'⟩ := h'.entries
    have hmissing : m₁.missing ty (soundKeys d steps' bs') = m.missing ty (soundKeys d steps' bs') :=
      h.missing_eq (List.disjoint_of_subset_right (soundKeys_subset d steps' bs') hdisj)
    obtain ⟨es, hes, hfits, hcreated, rfl⟩ := h.entries
    refine ⟨es ++ es', ?_, hfits.append hfits', ?_, ?_⟩
    · rw [List.map_append, hes, hes', hmissing, hsound, Memory.missing_eq_filter, Memory.missing_eq_filter,
        Memory.missing_eq_filter, List.filter_append, List.map_append]
    · rw [hcreated', hcreated, List.length_append, Nat.add_assoc]
    · rw [hm', MappingTable.addAll_append]

/-- A batch after its calls. -/
theorem of_ending {s s' : Disturbed} {result : Except Fault BatchOutcome} {first last : Int64} (hty : r.model = ty)
    (hfirst : pks.head? = some first) (hlast : pks.getLast? = some last) (habout : ∀ x ∈ steps, x.1.about ⊆ pks)
    (hend : Disturbed.Ending d s steps (fun o s' => Disturbed.Filled ty pks s.world.memory o s'.world.memory)
      (result, s')) :
    Covered d ty [pks] steps s.world.memory r s'.world.memory (r.record first last pks result) := by
  have hflat : [pks].flatten = pks := List.append_nil _
  cases hend with
  | @fault kind s' x hsame hx hkind hfails hne =>
    have hbad := batchFails_of_mem hx hfails hne (habout x hx)
    have hfailing : failingBatches d steps [pks] = [pks] := by rw [failingBatches, List.filter_singleton, hbad]; rfl
    have hsound : soundKeys d steps [pks] = [] := by rw [soundKeys, List.filter_singleton, hbad]; rfl
    refine ⟨by rwa [hflat], rfl, by rw [hflat]; rfl, rfl, by rw [hsound]; rfl, ?_, [], by rw [hsound]; rfl, trivial,
      rfl, hsame⟩
    refine ⟨[⟨r.model, first, last, pks, (lostConnection kind).chain⟩], rfl, ?_⟩
    rw [hfailing]
    exact .cons ⟨hty, hfirst, hlast, rfl, kind, rfl⟩ .nil
  | @result o s' hfilled hnone =>
    have hgood := batchFails_of_not_fails hnone pks
    have hfailing : failingBatches d steps [pks] = [] := by rw [failingBatches, List.filter_singleton, hgood]; rfl
    have hsound : soundKeys d steps [pks] = pks := by rw [soundKeys, List.filter_singleton, hgood]; exact hflat
    obtain ⟨es, hes, hfits, hcreated, hm'⟩ := hfilled.entries
    refine ⟨by rwa [hflat], rfl, by rw [hflat]; rfl, congrArg (r.vanished + ·) hfilled.vanished, ?_,
      ⟨[], (List.append_nil _).symm, by rw [hfailing]; exact .nil⟩, es, by rw [hes, hsound], hfits,
      congrArg (r.created + ·) hcreated, hm'⟩
    have hcounted := hfilled.counted
    rw [hsound]
    change r.created + o.created + (r.alreadyMapped + o.alreadyMapped) = _
    omega

end Covered

end

/-! ## Page after page -/

namespace Disturbed

variable {s : Disturbed} {bs : List (List Int64)} {r : BackfillReport}

variable (registry moments) in
/-- Keys are always listed. -/
theorem exec_keys (hd : d.OnlyFails) (hs : s.world.memory.Regular) (ty : String) (cursor : Option Int64) (limit : Nat) :
    ∃ s', exec registry moments d (liftM (Store.keys ty cursor limit) : Action (List Int64)).run s =
        (.ok ((s.world.memory.keysFrom ty cursor).take limit), s') ∧
      s'.world.memory = s.world.memory := by
  have hnot : d.Fails (.keys ty cursor limit) s = false := by
    refine Bool.eq_false_iff.2 fun h => hd.keys (s.seen.count .keys) ?_
    change d.failures.contains (.keys, s.seen.count .keys) = true at h
    exact List.contains_iff_mem.1 h
  have hcall : exec registry moments d (liftM (Store.keys ty cursor limit) : Action (List Int64)).run s =
      (Except.mapError Fault.toError (answer registry moments d (.keys ty cursor limit) s).1,
        (answer registry moments d (.keys ty cursor limit) s).2) := rfl
  rw [hcall, answer_of_not_fails registry moments hd hs hnot]
  exact ⟨_, rfl, rfl⟩

/-- If all ids of new entries are fresh, the action ends with a report, and some batches are covered. -/
def Covers (registry : Registry) (moments : Nat → Moment) (d : Disturbance) (ty : String) (bs : List (List Int64))
    (a : Action BackfillReport) (s : Disturbed) (r : BackfillReport) : Prop :=
  (∀ x ∈ steps registry moments d a.run s, fresh x.1 x.2.world = true) →
    ∃ r' s', exec registry moments d a.run s = (.ok r', s') ∧
      Covered d ty bs (steps registry moments d a.run s) s.world.memory r s'.world.memory r'

namespace Covers

theorem pure : Covers registry moments d ty [] (Pure.pure r) s r :=
  fun _ => ⟨r, s, rfl, .nil (List.forall_mem_nil _)⟩

/-- Some keys are listed, which is no call about them, and what follows. -/
theorem listed (hd : d.OnlyFails) (hs : s.world.memory.Regular) (hnodup : bs.flatten.Nodup) {ty' : String}
    {limit : Nat} {k : List Int64 → Action BackfillReport}
    (hk : ∀ s', s'.world.memory = s.world.memory →
      Covers registry moments d ty bs (k ((s.world.memory.keysFrom ty' cursor).take limit)) s' r) :
    Covers registry moments d ty bs (Store.keys ty' cursor limit >>= k) s r := by
  obtain ⟨s₁, hkeys, hs₁⟩ := exec_keys registry moments hd hs ty' cursor limit
  unfold Covers
  rw [steps_run_bind, exec_run_bind, hkeys]
  intro hfresh
  obtain ⟨r', s', hrun, hcovered⟩ := hk s₁ hs₁ fun x hx => hfresh x (List.mem_append_right _ hx)
  rw [hs₁] at hcovered
  refine ⟨r', s', hrun, Covered.append (.nil fun x hx => ?_) hcovered hnodup⟩
  obtain rfl := List.mem_singleton.1 hx
  rfl

/-- A batch, and what follows. -/
theorem batch (hd : d.OnlyFails) (hs : s.world.memory.Regular) {first last : Int64} (hfirst : pks.head? = some first)
    (hlast : pks.getLast? = some last) (hnodup : (pks :: bs).flatten.Nodup)
    (hstored : ∀ pk ∈ pks, (s.world.memory.row? r.model pk).isSome = true)
    {k : Except Fault BatchOutcome → Action BackfillReport}
    (hk : ∀ o s', s'.world.memory.Regular →
      (∀ cursor, s'.world.memory.keysFrom r.model cursor = s.world.memory.keysFrom r.model cursor) →
        Covers registry moments d r.model bs (k o) s' (r.record first last pks o)) :
    Covers registry moments d r.model (pks :: bs) (ExceptT.lift (backfillBatch r.model false pks).run >>= k) s r := by
  unfold Covers
  rw [steps_run_bind, exec_run_bind, steps_lift, exec_lift]
  intro hfresh
  have hne : pks ≠ [] := List.ne_nil_of_mem (List.mem_of_getLast? hlast)
  obtain ⟨habout, hend⟩ := attempts_backfillBatch hd hs hne (List.nodup_append.1 hnodup).1 hstored fun x hx =>
    hfresh x (List.mem_append_left _ hx)
  have hcovered := Covered.of_ending rfl hfirst hlast habout hend
  obtain ⟨r', s', hrun, hrest⟩ := hk _ _ (hcovered.regular hs) (hcovered.keysFrom_eq r.model) fun x hx =>
    hfresh x (List.mem_append_right _ hx)
  exact ⟨r', s', hrun, hcovered.append hrest hnodup⟩

end Covers

variable (registry moments) in
/-- **The batches from a cursor on.** By induction on the number of pages, which is greater than that of the keys
beyond the cursor. -/
theorem covers_backfillPages (hd : d.OnlyFails) (hbatch : 0 < batchSize) {pages : Nat} (hdry : r.dryRun = false)
    (hroom : keysBeyond cursor < pages) (hs : s.world.memory.Regular) :
    Covers registry moments d r.model (batchesOf batchSize (s.world.memory.keysFrom r.model cursor))
      (backfillPages batchSize pages cursor r) s r := by
  induction pages generalizing cursor r s with
  | zero => exact absurd hroom (Nat.not_lt_zero _)
  | succ pages ih =>
    have hnodup := hs.nodup_keysFrom r.model cursor
    rw [← flatten_batchesOf hbatch (s.world.memory.keysFrom r.model cursor)] at hnodup
    unfold backfillPages
    refine Covers.listed hd hs hnodup fun s₁ hs₁ => ?_
    rw [← hs₁] at hs hnodup ⊢
    cases hpage : (s₁.world.memory.keysFrom r.model cursor).take batchSize with
    | nil =>
      rw [(List.take_eq_nil_iff.1 hpage).resolve_left (Nat.ne_of_gt hbatch), batchesOf_nil hbatch]
      exact .pure
    | cons first rest =>
      have hmem : ∀ pk ∈ first :: rest, pk ∈ s₁.world.memory.keysFrom r.model cursor := fun pk hpk =>
        List.mem_of_mem_take (hpage ▸ hpk)
      obtain ⟨last, hlast⟩ : ∃ last, (first :: rest).getLast? = some last := ⟨_, List.getLast?_cons⟩
      have hrest := hs.keysFrom_some (hpage ▸ hlast)
      rw [batchesOf_of_ne_nil hbatch (List.ne_nil_of_mem (hmem first List.mem_cons_self)), hpage] at hnodup ⊢
      simp only [List.head?_cons, hlast, hdry]
      refine Covers.batch hd hs List.head?_cons hlast hnodup
        (fun pk hpk => Memory.isSome_row?_of_mem_keysFrom (hmem pk hpk)) fun o s₂ hs₂ hkeys => ?_
      split
      next hshort =>
        have hlength : (s₁.world.memory.keysFrom r.model cursor).length ≤ batchSize := by
          have hpageLength := congrArg List.length hpage
          rw [List.length_take] at hpageLength
          omega
        rw [List.drop_eq_nil_of_le hlength, batchesOf_nil hbatch]
        exact .pure
      next =>
        have hmodel : (r.record first last (first :: rest) o).model = r.model := by cases o <;> rfl
        have hdry' : (r.record first last (first :: rest) o).dryRun = false := by cases o <;> exact hdry
        have hlt := keysBeyond_lt (List.mem_filter.1 (hmem last (List.mem_of_getLast? hlast))).2
        have hnext := ih hdry' (Nat.lt_of_lt_of_le hlt (Nat.le_of_lt_succ hroom)) hs₂
        rwa [hmodel, hkeys, hrest] at hnext

end Disturbed

end RowIdentity
