import RowIdentity.Proofs.Command.Success
import RowIdentity.Proofs.Concurrency.Backfill
import RowIdentity.Proofs.Sql.PageSize
import RowIdentity.Proofs.Text.Decimal

/-!
# The batch size of the backfill command

* `Statement.OfBatches` — a statement that binds no size, or a listing that binds the word of the batch size;
* `Command.run_makes` — **every statement of a run is one of these**, for the size that is asked for or configured;
* `Command.batchSize_lt` — such a size is any unsigned word;
* `pageSizes_exact` — **the sizes that the statements bind are those that are asked for below 2⁶³, and only there**.
-/

namespace RowIdentity

open Program

variable {registry : Registry} {batchSize : Nat}

namespace Program.Makes

variable {I J : Interface} {α ε : Type} {Q : I.Call → Prop}

/-- A program over another service makes the calls of what replaces its own. -/
theorem interpret {Q' : J.Call → Prop} {implement : (c : I.Call) → Program J (I.Reply c)} {p : Program I α}
    (h : p.Makes Q) (himplement : ∀ c, Q c → (implement c).Makes Q') : (p.interpret implement).Makes Q' := by
  induction p with
  | done a => trivial
  | call c next ih => exact (himplement c h.1).bind fun r => ih r (h.2 r)

theorem tryCatch {a : ExceptT ε (Program I) α} {handle : ε → ExceptT ε (Program I) α} (ha : Makes Q a.run)
    (hhandle : ∀ e, Makes Q (handle e).run) : Makes Q (tryCatch a handle).run := by
  rw [ExceptT.run_tryCatch]
  refine Makes.bind ha fun r => ?_
  cases r with
  | ok x => trivial
  | error e => exact hhandle e

end Program.Makes

/-! ## The calls of a backfill -/

/-- The calls of a backfill; it lists as many keys as a batch holds. -/
inductive BackendCall.OfBackfill (batchSize : Nat) : BackendCall → Prop
  | batch {c : BackendCall} : c.OfBatch → OfBackfill batchSize c
  | keys (ty : String) (after : Option Int64) : OfBackfill batchSize (.keys ty after batchSize)
  | row (ty : String) (pk : Int64) : OfBackfill batchSize (.row ty pk)
  | entryOf (ty : String) (pk : Int64) : OfBackfill batchSize (.entryOf ty pk)

theorem backfillModel_makes (dryRun : Bool) (batchSize : Nat) (model : Model) :
    (backfillModel dryRun batchSize model).run.Makes (BackendCall.OfBackfill batchSize) := by
  unfold backfillModel
  refine Makes.except_bind (a := liftM (checkBatchSize batchSize)) trivial fun _ => ?_
  refine Makes.except_bind (a := liftM (checkEligible model)) trivial fun _ => ?_
  exact backfillPages_makes_of_batch (fun _ => .keys _ _)
    (fun pks => (backfillBatch_makes _ dryRun pks).mono fun _ => .batch) _ _ rfl rfl

theorem backfillAll_makes (dryRun : Bool) (batchSize : Nat) (app : Option String) :
    (backfillAll registry dryRun batchSize app).run.Makes (BackendCall.OfBackfill batchSize) := by
  unfold backfillAll
  refine Makes.except_bind (a := liftM (checkBatchSize batchSize)) trivial fun _ => ?_
  exact .mapM (backfillModel_makes dryRun batchSize)

theorem backfillRow_makes (dryRun : Bool) (batchSize : Nat) (app name : String) (pk : Int64) :
    (backfillRow registry dryRun app name pk).run.Makes (BackendCall.OfBackfill batchSize) := by
  unfold backfillRow
  split
  next model _ =>
    refine Makes.except_bind (a := liftM (checkEligible model)) trivial fun _ => ?_
    refine Makes.except_bind (a := liftM (Store.row model.entityType pk)) ⟨.row _ _, fun _ => trivial⟩ fun row? => ?_
    split
    · trivial
    · refine Makes.except_bind (a := liftM (Store.entryOf model.entityType pk)) ⟨.entryOf _ _, fun _ => trivial⟩
        fun entry? => ?_
      split
      · trivial
      · split
        · trivial
        · refine Makes.except_bind (a := liftM (Store.newEntry model.entityType pk)) ⟨.batch .stamp, fun _ => trivial⟩
            fun e => ?_
          exact Makes.except_bind (a := liftM (Store.insertEntries [e])) ⟨.batch (.insertEntries _), fun _ => trivial⟩
            fun _ => trivial
  next => trivial

/-! ## Its statements -/

/-- A statement that binds no size, or a listing of as many keys as the word of the batch size says. -/
inductive Statement.OfBatches (batchSize : Nat) : Statement → Prop
  | unsized {s : Statement} : s.limit? = none → s.offset? = none → OfBatches batchSize s
  | keys (table : String) (after : Option Int64) : OfBatches batchSize (.keys table after (RowSelect.word batchSize))

/-- A call that sends no other statement. -/
def SqlCall.OfBatches (batchSize : Nat) (c : SqlCall) : Prop := ∀ s, c = .run s → s.OfBatches batchSize

theorem SqlCall.Silent.ofBatches {c : SqlCall} (h : c.Silent) : c.OfBatches batchSize := fun s hs => absurd hs (h s)

theorem SqlCall.ofBatches_run {s : Statement} (hs : s.OfBatches batchSize) : (SqlCall.run s).OfBatches batchSize := by
  rintro _ ⟨⟩
  exact hs

theorem Program.Sends.ofBatches {α : Type} {s : Statement} {p : Program Database α} (h : Sends (some s) p)
    (hs : s.OfBatches batchSize) : p.Makes (SqlCall.OfBatches batchSize) := by
  obtain ⟨next, rfl, hnext⟩ := h
  exact ⟨SqlCall.ofBatches_run hs, fun r => (hnext r).mono fun _ => SqlCall.Silent.ofBatches⟩

namespace SqlStore

/-- A statement for the table of a type that binds no size. -/
theorem ofBatches_table {α : Type} (ty : String) (statement : String → Statement) {f : String → SqlAction α}
    (hf : ∀ table, Sends (some (statement table)) (f table).run)
    (hs : ∀ table, (statement table).OfBatches batchSize) :
    Makes (I := Database) (SqlCall.OfBatches batchSize) ((table registry ty : SqlAction String) >>= f).run := by
  cases table registry ty with
  | error e => trivial
  | ok table => exact (hf table).ofBatches (hs table)

theorem insertEntries_makes (es : List MappingEntry) :
    Makes (I := Database) (SqlCall.OfBatches batchSize) (insertEntries es).run := by
  unfold insertEntries
  split
  · trivial
  · refine Makes.except_bind (a := Sql.begin _) ⟨fun _ => nofun, fun _ => trivial⟩ fun _ => ?_
    refine Makes.except_bind (Makes.tryCatch ?_ fun fault => ?_) fun _ => ?_
    · exact Makes.except_bind (a := Sql.run _ (.insertEntries es))
        ⟨SqlCall.ofBatches_run (.unsized rfl rfl), fun _ => trivial⟩ fun _ => trivial
    · exact Makes.except_bind (a := liftM Sql.rollback) ⟨fun _ => nofun, fun _ => trivial⟩ fun _ => trivial
    · exact Makes.except_bind (a := Sql.commit _) ⟨fun _ => nofun, fun _ => trivial⟩ fun _ => trivial

/-- **The statements of a backfill bind no size but that of its batches.** -/
theorem reply_makes {c : BackendCall} (hc : c.OfBackfill batchSize) :
    (reply registry c).Makes (SqlCall.OfBatches batchSize) := by
  cases hc with
  | batch hbatch =>
    cases hbatch with
    | mapped ty pks =>
      exact Sends.ofBatches ((Sql.sends_fetchAll _ readKey _).except_bind fun _ => trivial) (.unsized rfl rfl)
    | existing ty pks =>
      exact ofBatches_table ty (.existing · pks)
        (fun _ => (Sql.sends_fetchAll _ readKey _).except_bind fun _ => trivial) fun _ => .unsized rfl rfl
    | stamp => exact ⟨fun _ => nofun, fun _ => trivial⟩
    | insertEntries es => exact insertEntries_makes es
  | keys ty after =>
    exact ofBatches_table ty (.keys · after _) (fun _ => Sql.sends_fetchAll _ readKey _) fun _ => .keys _ _
  | row ty pk =>
    refine ofBatches_table ty (.row · pk) (fun table => ?_) fun _ => .unsized rfl rfl
    refine (Sql.sends_fetchOptional _ readRow _).except_bind fun row? => ?_
    split
    · trivial
    · exact Makes.except_bind (a := Sql.stamp) ⟨fun _ => nofun, fun _ => trivial⟩ fun _ => trivial
  | entryOf ty pk => exact Sends.ofBatches (Sql.sends_fetchOptional _ readEntry _) (.unsized rfl rfl)

end SqlStore

/-! ## The statements of a run -/

namespace Command

theorem overSql_makes {α : Type} {a : Action α} (ha : a.run.Makes (BackendCall.OfBackfill batchSize)) :
    Makes (I := Database) (SqlCall.OfBatches batchSize) (overSql registry a).run :=
  Makes.bind (ha.interpret fun _ => SqlStore.reply_makes) fun _ => trivial

theorem backfill_makes (dryRun : Bool) (selection : Selection) :
    Makes (I := Database) (SqlCall.OfBatches batchSize) (backfill registry dryRun batchSize selection).run := by
  cases selection with
  | row app name pk =>
    exact Makes.except_bind (overSql_makes (backfillRow_makes dryRun batchSize app name pk)) fun _ => trivial
  | model app name =>
    cases hmodel : registry.byNames? app name with
    | none =>
      simp only [backfill, hmodel]
      trivial
    | some model =>
      simp only [backfill, hmodel]
      exact Makes.except_bind (overSql_makes (backfillModel_makes dryRun batchSize model)) fun _ => trivial
  | models app => exact Makes.except_bind (overSql_makes (backfillAll_makes dryRun batchSize app)) fun _ => trivial

theorem ensureSchema_makes : Makes (I := Database) (SqlCall.OfBatches batchSize) ensureSchema.run := by
  have hexecute {purpose : String} {s : Statement} (hs : s.OfBatches batchSize) :
      Makes (I := Database) (SqlCall.OfBatches batchSize) (Sql.execute purpose s).run :=
    Makes.except_bind (a := Sql.run purpose s) ⟨SqlCall.ofBatches_run hs, fun _ => trivial⟩ fun _ => trivial
  exact Makes.except_bind (hexecute (.unsized rfl rfl)) fun _ =>
    Makes.except_bind (hexecute (.unsized rfl rfl)) fun _ =>
      Makes.except_bind (hexecute (.unsized rfl rfl)) fun _ => trivial

/-- **A run binds no size but that of its batches**, which is given as an argument or configured. -/
theorem run_makes {s : Surroundings} {args : List String} {a : Arguments} {settings : Settings}
    (hparse : Invocation.parse? s.env args = some (.run a)) (hsettings : Command.settings s a = .ok settings) :
    (run s args).Makes (SqlCall.OfBatches (a.batchSize.getD settings.backfill.batchSize)) := by
  unfold run
  rw [hparse]
  refine Makes.bind ?_ fun _ => trivial
  unfold perform
  rw [hsettings]
  change Makes (I := Database) _ (ofResult settings.registry >>= _).run
  refine Makes.except_bind trivial fun registry => ?_
  refine Makes.except_bind ?_ fun _ => Makes.except_bind ensureSchema_makes fun _ => backfill_makes _ _
  unfold Sql.connect
  split
  · exact ⟨fun _ => nofun, fun _ => trivial⟩
  · trivial

/-! ## The sizes there may be -/

/-- The batch size, where one is given, is an unsigned word. -/
def Given.Bounded (g : Given) : Prop := ∀ n ∈ g.batchSize, n < UInt64.size

theorem Given.Bounded.take? {g g' : Given} {o : ValuedOption} {value : List Char} (hg : g.Bounded)
    (h : g.take? o value = some g') : g'.Bounded := by
  unfold Given.take? at h
  split at h
  · cases h
  · cases o with
    | batchSize =>
      obtain ⟨n, hn, rfl⟩ := Option.map_eq_some_iff.1 h
      rintro _ ⟨⟩
      exact Decimal.lt_of_natBelow? hn
    | config =>
      dsimp only at h
      split at h
      · cases h
      · cases h
        exact hg
    | pk =>
      obtain ⟨n, -, rfl⟩ := Option.map_eq_some_iff.1 h
      exact hg
    | databaseUrl | app | model =>
      cases h
      exact hg

theorem Given.Bounded.read? {g g' : Given} {args : List (List Char)} (hg : g.Bounded)
    (h : Command.read? g args = some (.given g')) : g'.Bounded := by
  -- what is taken into account before the rest is read
  have htake {g : Given} {o : ValuedOption} {value : List Char} {rest : List (List Char)} (hg : g.Bounded)
      (ih : ∀ g : Given, g.Bounded → Command.read? g rest = some (.given g') → g'.Bounded)
      (h : ((g.take? o value).bind fun g => Command.read? g rest) = some (.given g')) : g'.Bounded := by
    obtain ⟨g₁, htaken, hrest⟩ := Option.bind_eq_some_iff.1 h
    exact ih g₁ (hg.take? htaken) hrest
  fun_induction Command.read? g args
  case case1 | case2 =>
    cases h
    exact hg
  case case8 ih => exact ih hg h
  case case9 ih | case14 ih => exact htake hg ih h
  case case16 ih | case17 ih => exact htake hg ih h
  case case4 ih =>
    obtain ⟨o, -, hrest⟩ := Option.bind_eq_some_iff.1 h
    exact htake hg ih hrest
  all_goals cases h

theorem Given.complete?_batchSize {g : Given} {env : String → Option String} {a : Arguments}
    (h : g.complete? env = some a) : a.batchSize = g.batchSize := by
  obtain ⟨url, -, h⟩ := Option.bind_eq_some_iff.1 h
  dsimp only at h
  split at h
  · cases h
  · cases h
    rfl

theorem bounded_of_parse {env : String → Option String} {args : List String} {a : Arguments}
    (h : Invocation.parse? env args = some (.run a)) : ∀ n ∈ a.batchSize, n < UInt64.size := by
  obtain ⟨reading, hread, h⟩ := Option.bind_eq_some_iff.1 h
  cases reading with
  | given g =>
    obtain ⟨a', hcomplete, h⟩ := Option.bind_eq_some_iff.1 h
    cases h
    rw [Given.complete?_batchSize hcomplete]
    exact Given.Bounded.read? (g := .none) nofun hread
  | help => cases h
  | version => cases h

end Command

/-! ## Configured sizes -/

theorem lt_of_count? {s : String} {n : Nat} (h : count? s = some n) : n < UInt64.size := by
  -- whatever the base, the number is checked in the end
  have hchecked {number? : Option Nat}
      (h : (number?.bind fun n => if n < UInt64.size then some n else none) = some n) : n < UInt64.size := by
    obtain ⟨k, -, h⟩ := Option.bind_eq_some_iff.1 h
    split at h
    next hlt =>
      cases h
      exact hlt
    next => cases h
  unfold count? at h
  dsimp only at h
  split at h
  all_goals exact hchecked h

/-- A field that may be left out has a value that was read, or its default. -/
theorem SettingValue.withDefault?_inv {α β : Type} {fields : List (String × α)} {name : String}
    {read : α → Option β} {default x : β} (h : withDefault? fields name read default = some x) :
    (∃ v, read v = some x) ∨ x = default := by
  unfold withDefault? at h
  split at h
  next f _ => exact .inl ⟨f.2, h⟩
  next => exact .inr (Option.some.inj h).symm

theorem BackfillSettings.batchSize_lt {n : Yaml.Node} {b : BackfillSettings} (h : read? n = some b) :
    b.batchSize < UInt64.size := by
  obtain ⟨fields, -, h⟩ := Option.bind_eq_some_iff.1 h
  obtain ⟨size, hsize, h⟩ := Option.bind_eq_some_iff.1 h
  obtain ⟨dryRun, -, h⟩ := Option.bind_eq_some_iff.1 h
  cases h
  rcases SettingValue.withDefault?_inv hsize with ⟨v, hv⟩ | rfl
  · obtain ⟨text, -, hcount⟩ := Option.bind_eq_some_iff.1 hv
    exact lt_of_count? hcount
  · change BackfillSettings.default.batchSize < UInt64.size
    decide

theorem Settings.batchSize_lt_of_read {n : Yaml.Node} {s : Settings} (h : read? n = some s) :
    s.backfill.batchSize < UInt64.size := by
  obtain ⟨fields, -, h⟩ := Option.bind_eq_some_iff.1 h
  obtain ⟨publicId, -, h⟩ := Option.bind_eq_some_iff.1 h
  obtain ⟨backfill, hbackfill, h⟩ := Option.bind_eq_some_iff.1 h
  obtain ⟨models, -, h⟩ := Option.bind_eq_some_iff.1 h
  cases h
  rcases SettingValue.withDefault?_inv hbackfill with ⟨v, hv⟩ | rfl
  · exact BackfillSettings.batchSize_lt hv
  · change Settings.default.backfill.batchSize < UInt64.size
    decide

theorem Settings.batchSize_lt_of_parse {file : Option String} {text : String} {s : Settings}
    (h : parse file text = .ok s) : s.backfill.batchSize < UInt64.size := by
  unfold parse at h
  split at h
  next s' hread =>
    obtain ⟨n, -, hread⟩ := Option.bind_eq_some_iff.1 hread
    unfold validated at h
    split at h
    · cases h
    · cases h
      exact batchSize_lt_of_read hread
  next => cases h

namespace Command

theorem settings_batchSize_lt {s : Surroundings} {a : Arguments} {settings : Settings}
    (h : Command.settings s a = .ok settings) : settings.backfill.batchSize < UInt64.size := by
  unfold Command.settings at h
  cases hfile : Settings.ofFile a.config (s.file a.config) with
  | error e =>
    rw [hfile] at h
    cases h
  | ok read =>
    have hlt : read.backfill.batchSize < UInt64.size := by
      unfold Settings.ofFile at hfile
      split at hfile
      · cases hfile
      · cases hfile
      · exact Settings.batchSize_lt_of_parse hfile
    rw [hfile] at h
    change read.overridden (s.env publicIdFlag) = .ok settings at h
    unfold Settings.overridden at h
    split at h
    · cases h
      exact hlt
    · split at h
      · cases h
        exact hlt
      · cases h

/-- **The batch size of a run is an unsigned word.** -/
theorem batchSize_lt {s : Surroundings} {args : List String} {a : Arguments} {settings : Settings}
    (hparse : Invocation.parse? s.env args = some (.run a)) (hsettings : Command.settings s a = .ok settings) :
    a.batchSize.getD settings.backfill.batchSize < UInt64.size := by
  cases hgiven : a.batchSize with
  | none => exact settings_batchSize_lt hsettings
  | some n => exact bounded_of_parse hparse n hgiven

end Command

/-! ## Sizes of all calls -/

/-- **The sizes that statements bind are those that are asked for below 2⁶³, and only there.** Listing keys and querying
rows, with sizes that are unsigned words, are one statement each if the type has a table, and else none; that statement
binds no negative size and cuts out the page that is asked for exactly when its sizes are below 2⁶³. Counting rows binds
no size. A run of the backfill binds none but the size of its batches, which is an unsigned word as well. -/
theorem pageSizes_exact (registry : Registry) :
    (∀ (ty : String) (after : Option Int64) (limit : Nat), limit < UInt64.size →
      Sends ((SqlStore.table registry ty).toOption.map fun table => .keys table after (RowSelect.word limit))
        (SqlStore.keys registry ty after limit).run ∧
      ∀ table, (Statement.keys table after (RowSelect.word limit)).Cuts (fun _ => List.take limit) ↔ limit < 2 ^ 63) ∧
    (∀ q : RowQuery, q.offset < UInt64.size → (∀ n ∈ q.limit, n < UInt64.size) →
      Sends (if q.isValid then
          (SqlStore.table registry q.entityType).toOption.map fun table => .select (.ofQuery table false q) else none)
        (SqlStore.fetch registry q).run ∧
      ∀ table, (Statement.select (.ofQuery table false q)).Cuts (fun _ => q.page) ↔
        q.offset < 2 ^ 63 ∧ ∀ n ∈ q.limit, n < 2 ^ 63) ∧
    (∀ q : RowQuery,
      Sends (if q.isValid then
          (SqlStore.table registry q.entityType).toOption.map fun table => .select (.ofQuery table true q) else none)
        (SqlStore.countRows registry q).run ∧
      ∀ table, (Statement.select (.ofQuery table true q)).limit? = none ∧
        (Statement.select (.ofQuery table true q)).offset? = none) ∧
    ∀ (s : Command.Surroundings) (args : List String) (a : Command.Arguments) (settings : Settings),
      Command.Invocation.parse? s.env args = some (.run a) → Command.settings s a = .ok settings →
      a.batchSize.getD settings.backfill.batchSize < UInt64.size ∧
        (Command.run s args).Makes (SqlCall.OfBatches (a.batchSize.getD settings.backfill.batchSize)) := by
  refine ⟨fun ty after limit hlimit => ?_, fun q hoffset hlimit => ?_, fun q => ?_, fun s args a settings => ?_⟩
  · exact ⟨SqlStore.sends_keys registry ty after limit, fun table => Statement.cuts_keys_iff table after hlimit⟩
  · exact ⟨SqlStore.sends_fetch registry q, fun table => Statement.cuts_select_iff table hoffset hlimit⟩
  · exact ⟨SqlStore.sends_countRows registry q, fun table => ⟨rfl, rfl⟩⟩
  · exact fun hparse hsettings => ⟨Command.batchSize_lt hparse hsettings, Command.run_makes hparse hsettings⟩

/-- Twenty widgets from a place on. -/
def RowQuery.widgetsFrom (offset : Nat) : RowQuery := { RowQuery.all "shop.widget" with offset, limit := some 20 }

/-- A run that is told of its database only. -/
def Command.Arguments.ofUrl (url : String) : Arguments := ⟨url, "ids.yaml", none, none, none, none, false⟩

/-- The settings of the widgets. -/
def Settings.widgets : Settings :=
  { default with models := [⟨"shop", "widget", none, none, none, .autoIncrement, [.publicId], none⟩] }

/-- The first thousand keys of the widgets, the second page of twenty widgets, and a run with batches of the default
size. -/
theorem pageSizes_exact_widgets :
    (Sends (some (.keys "\"shop_widget\"" none 1000)) (SqlStore.keys .widgets "shop.widget" none 1000).run ∧
      (Statement.keys "\"shop_widget\"" none 1000).Cuts fun _ => List.take 1000) ∧
    (Statement.select (.ofQuery "\"shop_widget\"" false (.widgetsFrom 20))).Cuts
      (fun _ rows => (rows.drop 20).take 20) ∧
    1000 < UInt64.size ∧ (Command.run .widgets ["--database-url", "postgres:"]).Makes (SqlCall.OfBatches 1000) := by
  obtain ⟨hkeys, hfetch, -, hrun⟩ := pageSizes_exact .widgets
  have htable : SqlStore.table .widgets "shop.widget" = .ok "\"shop_widget\"" := by decide +kernel
  obtain ⟨hsends, hcuts⟩ := hkeys "shop.widget" none 1000 (by decide)
  rw [htable] at hsends
  obtain ⟨-, hpage⟩ := hfetch (.widgetsFrom 20) (by decide) (by decide)
  have hparse : Command.Invocation.parse? Command.Surroundings.widgets.env ["--database-url", "postgres:"] =
      some (.run (.ofUrl "postgres:")) := by decide +kernel
  have hread : Command.settings .widgets (.ofUrl "postgres:") = .ok .widgets := by decide +kernel
  have hmakes := hrun .widgets ["--database-url", "postgres:"] (.ofUrl "postgres:") .widgets hparse hread
  exact ⟨⟨hsends, (hcuts _).2 (by decide)⟩, (hpage _).2 (by decide), hmakes⟩

/-- The limits of the listings in a dialogue. -/
def listedLimits (d : List (Exchange Database)) : List Int64 :=
  d.filterMap fun x =>
    match x.call with
    | SqlCall.run (.keys _ _ limit) => some limit
    | _ => none

/-- **A size of 2⁶³ is bound as the least of all words**, be it the limit of a listing, the offset of a query, or the
size of the batches on the command line. -/
theorem pageSizes_wrap :
    (Sends (some (.keys "\"shop_widget\"" none Int64.minValue))
        (SqlStore.keys .widgets "shop.widget" none (2 ^ 63)).run ∧
      ¬(Statement.keys "\"shop_widget\"" none Int64.minValue).Cuts fun _ => List.take (2 ^ 63)) ∧
    (Statement.select (.ofQuery "\"shop_widget\"" false (.widgetsFrom (2 ^ 63)))).offset? = some Int64.minValue ∧
    listedLimits (dialogue (I := Database) SqlCall.answerThree
      (Command.run .widgets ["--database-url", "postgres:", "--batch-size", "9223372036854775808"]) ()) =
        [Int64.minValue] := by
  refine ⟨⟨SqlStore.sends_keys .widgets "shop.widget" none (2 ^ 63), fun hcuts => ?_⟩, by decide, by decide +kernel⟩
  exact absurd (hcuts.limit_nonneg _ rfl) (by decide)

end RowIdentity
