import Mathlib.Algebra.Group.Nat.Defs
import RowIdentity.Proofs.Sql.Quoting
import RowIdentity.Proofs.Text.Decimal
import RowIdentity.Proofs.Registry

/-!
# Where data goes in statements

* `placesIn`, `placesIn_texts` — the places that a text has are counted from one up, each once;
* `RowSelect.front`, `RowSelect.back`, `RowSelect.render_pieces` — a select is a text, the name of a table and a text
  behind it;
* `QueryParts`, `RowQuery.parts`, `RowQuery.bound` — the parts that a query has, and the values it binds;
* `textBefore`, `textBehind`, `render_ofQuery` — **these texts depend on the parts of the query alone**;
* `values_ofQuery`, `placesIn_ofQuery`, `SelectText` — what is bound, and to which places;
* `fill`, `triggerTemplates`, `QuotedPiece` — what goes into a statement about a trigger;
* `sqlText_holds_no_data` — **no data goes into the text of a select, and what goes into the text of a trigger stands
  between quotes**.
-/

namespace RowIdentity

/-! ## Places -/

/-- The numbers of the places in a text; a bare `$` has the number zero. -/
def placesIn : List Char → List Nat
  | [] => []
  | c :: cs => if c = '$' then Decimal.value (cs.takeWhile Char.isDigit) :: placesIn cs else placesIn cs

theorem placesIn_append_of_not_mem {cs : List Char} (h : '$' ∉ cs) (ds : List Char) :
    placesIn (cs ++ ds) = placesIn ds := by
  induction cs with
  | nil => rfl
  | cons c cs ih =>
    rw [List.mem_cons, not_or] at h
    rw [List.cons_append, placesIn, if_neg (Ne.symm h.1), ih h.2]

/-- A place has the number that is written behind its sign, as far as the digits go. -/
theorem placesIn_place_append (n : Nat) {ds : List Char} (hds : ds.head?.any Char.isDigit = false) :
    placesIn ((SqlPiece.place n).toList ++ ds) = n :: placesIn ds := by
  have hdigits : ∀ c ∈ Decimal.ofNat n, c.isDigit = true := fun c => Decimal.isDigit_of_mem_ofNat
  have hnone : '$' ∉ Decimal.ofNat n := fun hmem => absurd (hdigits _ hmem) (by decide)
  have hrest : ds.takeWhile Char.isDigit = [] := by
    cases ds with
    | nil => rfl
    | cons d ds =>
      have hd : d.isDigit = false := hds
      rw [List.takeWhile_cons, hd]
      rfl
  have hplace : (SqlPiece.place n).toList = '$' :: Decimal.ofNat n := by
    simp [SqlPiece.place, Decimal.ofInt]
  rw [hplace, List.cons_append, placesIn, if_pos rfl, List.takeWhile_append_of_pos hdigits, hrest, List.append_nil,
    Decimal.value_ofNat, placesIn_append_of_not_mem hnone]

namespace SqlPiece

/-- A text without places of its own, and no digit at its start that would lengthen the number of a place. -/
def IsPlain : SqlPiece → Prop
  | text s => '$' ∉ s.toList ∧ s.toList.head?.any Char.isDigit = false
  | bind _ => True

instance : DecidablePred IsPlain
  | text s => inferInstanceAs (Decidable ('$' ∉ s.toList ∧ s.toList.head?.any Char.isDigit = false))
  | bind _ => inferInstanceAs (Decidable True)

@[simp] theorem values_append (ps qs : List SqlPiece) : values (ps ++ qs) = values ps ++ values qs :=
  List.filterMap_append

@[simp] theorem values_text (s : String) (ps : List SqlPiece) : values (text s :: ps) = values ps := rfl

@[simp] theorem values_bind (v : SqlValue) (ps : List SqlPiece) : values (bind v :: ps) = v :: values ps := rfl

@[simp] theorem values_nil : values [] = [] := rfl

theorem texts_append (ps qs : List SqlPiece) (n : Nat) :
    texts n (ps ++ qs) = texts n ps ++ texts (n + (values ps).length) qs := by
  induction ps generalizing n with
  | nil => rfl
  | cons p ps ih =>
    cases p with
    | text s => exact congrArg (s :: ·) (ih n)
    | bind v =>
      rw [values_bind, List.length_cons, Nat.add_comm _ 1, ← Nat.add_assoc]
      exact congrArg (place n :: ·) (ih (n + 1))

/-- A piece without the value that is bound. -/
def blank : SqlPiece → SqlPiece
  | text s => text s
  | bind _ => bind .null

/-- The texts do not tell what is bound. -/
theorem texts_map_blank (ps : List SqlPiece) (n : Nat) : texts n (ps.map blank) = texts n ps := by
  induction ps generalizing n with
  | nil => rfl
  | cons p ps ih =>
    cases p with
    | text s => exact congrArg (s :: ·) (ih n)
    | bind v => exact congrArg (place n :: ·) (ih (n + 1))

theorem length_values_map_blank (ps : List SqlPiece) : (values (ps.map blank)).length = (values ps).length := by
  induction ps with
  | nil => rfl
  | cons p ps ih =>
    cases p with
    | text s => exact ih
    | bind v => exact congrArg (· + 1) ih

theorem head?_join_texts (ps : List SqlPiece) (hps : ∀ p ∈ ps, p.IsPlain) (n : Nat) :
    (String.join (texts n ps)).toList.head?.any Char.isDigit = false := by
  induction ps generalizing n with
  | nil => simp [texts]
  | cons p ps ih =>
    rw [List.forall_mem_cons] at hps
    cases p with
    | text s =>
      rw [texts, String.join_cons, String.toList_append]
      cases hs : s.toList with
      | nil => exact ih hps.2 n
      | cons d ds =>
        have hhead := hps.1.2
        rw [hs] at hhead
        exact hhead
    | bind v =>
      rw [texts, String.join_cons, String.toList_append, place, String.toList_append]
      rfl

/-- **Places are numbered one after another, each once.** -/
theorem placesIn_texts (ps : List SqlPiece) (hps : ∀ p ∈ ps, p.IsPlain) (n : Nat) :
    placesIn (String.join (texts n ps)).toList = List.range' n (values ps).length := by
  induction ps generalizing n with
  | nil => simp [texts, values, placesIn]
  | cons p ps ih =>
    rw [List.forall_mem_cons] at hps
    cases p with
    | text s =>
      rw [texts, String.join_cons, String.toList_append, placesIn_append_of_not_mem hps.1.1, ih hps.2]
      rfl
    | bind v =>
      -- no text lengthens the number of the place before it
      rw [texts, String.join_cons, String.toList_append, placesIn_place_append n (head?_join_texts ps hps.2 (n + 1)),
        ih hps.2]
      rfl

end SqlPiece

/-! ## Selects -/

namespace RowSelect

/-- What comes before the name of the table. -/
def front (s : RowSelect) : List SqlPiece := .text "SELECT " :: s.columns ++ [.text " FROM "]

/-- What comes behind the name of the table. -/
def back (s : RowSelect) : List SqlPiece := .text " t WHERE TRUE" :: s.filters ++ .text (orderText s.order) :: s.page

theorem isPlain_bound {s : String} (hs : (SqlPiece.text s).IsPlain) (v : SqlValue) :
    ∀ p ∈ [SqlPiece.text s, .bind v], p.IsPlain :=
  List.forall_mem_cons.2 ⟨hs, List.forall_mem_singleton.2 trivial⟩

theorem isPlain_idOfRow (ty : String) : ∀ p ∈ idOfRow ty, p.IsPlain := by
  simp only [idOfRow, List.forall_mem_cons]
  exact ⟨by decide, trivial, by decide, nofun⟩

theorem isPlain_columns (s : RowSelect) : ∀ p ∈ s.columns, p.IsPlain := by
  unfold columns
  split
  · decide
  · split
    · simp only [List.cons_append, List.forall_mem_cons, List.forall_mem_append]
      exact ⟨by decide, isPlain_idOfRow _, by decide⟩
    · decide

theorem isPlain_filters (s : RowSelect) : ∀ p ∈ s.filters, p.IsPlain := by
  unfold filters
  rw [List.forall_mem_append]
  constructor
  · split
    · simp only [List.forall_mem_cons]
      exact ⟨by decide, trivial, by decide, nofun⟩
    · exact nofun
  · split
    · rw [List.cons_append, List.forall_mem_cons, List.forall_mem_append]
      exact ⟨by decide, isPlain_idOfRow _, isPlain_bound (by decide) _⟩
    · exact nofun

theorem isPlain_page (s : RowSelect) : ∀ p ∈ s.page, p.IsPlain := by
  unfold page
  rw [List.forall_mem_append]
  constructor
  · split
    · exact isPlain_bound (by decide) _
    · exact nofun
  · split
    · exact isPlain_bound (by decide) _
    · exact nofun

theorem isPlain_orderText (order : Option SortKey) : (SqlPiece.text (orderText (orderOf order))).IsPlain := by
  match order with
  | none => decide
  | some ⟨.pk, .asc⟩ => decide
  | some ⟨.pk, .desc⟩ => decide
  | some ⟨.publicId, .asc⟩ => decide
  | some ⟨.publicId, .desc⟩ => decide

/-- A name between its quotes holds no place. -/
theorem not_mem_quoted {name : String} (h : IsName name) : '$' ∉ ("\"" ++ name ++ "\"").toList := by
  have hname : '$' ∉ name.toList := fun hmem => absurd (h.chars _ hmem) (by rw [← isIdentifierChar_iff]; decide)
  simp only [String.toList_append, List.mem_append, not_or]
  exact ⟨⟨by decide, hname⟩, by decide⟩

theorem isPlain_pieces {name : String} (h : IsName name) (isCount : Bool) (q : RowQuery) :
    ∀ p ∈ (ofQuery ("\"" ++ name ++ "\"") isCount q).pieces, p.IsPlain := by
  have htable : (SqlPiece.text (" FROM " ++ ("\"" ++ name ++ "\"") ++ " t WHERE TRUE")).IsPlain := by
    constructor
    · rw [String.toList_append, String.toList_append, List.mem_append, List.mem_append, not_or, not_or]
      exact ⟨⟨by decide, not_mem_quoted h⟩, by decide⟩
    · simp
  have horder : (SqlPiece.text (orderText (ofQuery ("\"" ++ name ++ "\"") isCount q).order)).IsPlain := by
    cases isCount with
    | true => exact ⟨by simp [ofQuery, orderText], by simp [ofQuery, orderText]⟩
    | false => exact isPlain_orderText q.order
  simp only [pieces, List.cons_append, List.forall_mem_cons, List.forall_mem_append]
  exact ⟨by decide, ⟨isPlain_columns _, htable, isPlain_filters _⟩, horder, isPlain_page _⟩

/-- **The name of the table stands between two texts.** -/
theorem render_pieces (s : RowSelect) :
    SqlPiece.render s.pieces =
      String.join (SqlPiece.texts 1 s.front) ++ s.table ++
        String.join (SqlPiece.texts (1 + (SqlPiece.values s.front).length) s.back) := by
  simp only [SqlPiece.render, pieces, front, back, List.cons_append, SqlPiece.texts, SqlPiece.texts_append,
    SqlPiece.values_text, SqlPiece.values_append, SqlPiece.values_nil, List.append_nil, List.length_append,
    String.join_cons, String.join_append, String.join_nil, String.append_assoc, String.append_empty, Nat.add_assoc]

end RowSelect

/-! ## Parts of queries -/

/-- Which parts a query has. An order is a part as it is, since there are only so many. -/
structure QueryParts where
  annotated : Bool
  pks : Bool
  publicId : Bool
  order : Option SortKey
  limit : Bool
  offset : Bool
deriving DecidableEq

def RowQuery.parts (q : RowQuery) : QueryParts :=
  ⟨q.annotated, q.pks.isSome, q.publicId.isSome, q.order, q.limit.isSome, decide (0 < q.offset)⟩

/-- A query that has these parts, and nothing in them. -/
def QueryParts.blank (p : QueryParts) : RowQuery where
  entityType := ""
  pks := if p.pks then some [] else none
  publicId := if p.publicId then some .zero else none
  order := p.order
  offset := if p.offset then 1 else 0
  limit := if p.limit then some 0 else none
  annotated := p.annotated

/-- The text of a select up to the name of the table. -/
def textBefore (isCount : Bool) (p : QueryParts) : String :=
  String.join (SqlPiece.texts 1 (RowSelect.ofQuery "" isCount p.blank).front)

/-- The text of a select behind the name of the table. -/
def textBehind (isCount : Bool) (p : QueryParts) : String :=
  let s := RowSelect.ofQuery "" isCount p.blank
  String.join (SqlPiece.texts (1 + (SqlPiece.values s.front).length) s.back)

/-- The values that a query binds: its entity type where the public id of a row is sought, its filters, and for the
rows also the page, whose sizes go as 64-bit words. -/
def RowQuery.bound (q : RowQuery) (isCount : Bool) : List SqlValue :=
  (if !isCount && q.annotated then [.text q.entityType] else []) ++
  (match q.pks with
    | some pks => [.ints pks]
    | none => []) ++
  (match q.publicId with
    | some u => [.text q.entityType, .uuid u]
    | none => []) ++
  if isCount then []
  else
    (match q.limit with
      | some n => [.int (RowSelect.word n)]
      | none => []) ++
    if 0 < q.offset then [.int (RowSelect.word q.offset)] else []

/-- What a query has in its parts does not show in front of the table. -/
theorem front_blank (table : String) (isCount : Bool) (q : RowQuery) :
    (RowSelect.ofQuery table isCount q).front.map SqlPiece.blank =
      (RowSelect.ofQuery "" isCount q.parts.blank).front.map SqlPiece.blank := by
  cases isCount with
  | true => rfl
  | false =>
    cases hannotated : q.annotated <;>
      simp [RowSelect.front, RowSelect.columns, RowSelect.ofQuery, RowQuery.parts, QueryParts.blank, hannotated,
        RowSelect.idOfRow, SqlPiece.blank]

/-- Nor does it behind the table. -/
theorem back_blank (table : String) (isCount : Bool) (q : RowQuery) :
    (RowSelect.ofQuery table isCount q).back.map SqlPiece.blank =
      (RowSelect.ofQuery "" isCount q.parts.blank).back.map SqlPiece.blank := by
  have hfilters : (RowSelect.ofQuery table isCount q).filters.map SqlPiece.blank =
      (RowSelect.ofQuery "" isCount q.parts.blank).filters.map SqlPiece.blank := by
    cases hpks : q.pks <;> cases hid : q.publicId <;>
      simp [RowSelect.filters, RowSelect.ofQuery, RowQuery.parts, QueryParts.blank, hpks, hid, RowSelect.idOfRow,
        SqlPiece.blank]
  have hpage : (RowSelect.ofQuery table isCount q).page.map SqlPiece.blank =
      (RowSelect.ofQuery "" isCount q.parts.blank).page.map SqlPiece.blank := by
    cases isCount with
    | true => rfl
    | false =>
      cases hlimit : q.limit <;> rcases Nat.eq_zero_or_pos q.offset with hoffset | hoffset <;>
        simp [RowSelect.page, RowSelect.ofQuery, RowQuery.parts, QueryParts.blank, hlimit, hoffset, SqlPiece.blank,
          Nat.ne_of_gt]
  have horder : (RowSelect.ofQuery table isCount q).order = (RowSelect.ofQuery "" isCount q.parts.blank).order := rfl
  simp only [RowSelect.back, List.map_cons, List.map_append, List.cons_append, hfilters, hpage, horder, SqlPiece.blank]

/-- **The text of a select depends on the parts of its query alone, and on the name of the table.** -/
theorem render_ofQuery (table : String) (isCount : Bool) (q : RowQuery) :
    SqlPiece.render (RowSelect.ofQuery table isCount q).pieces =
      textBefore isCount q.parts ++ table ++ textBehind isCount q.parts := by
  have hfront := front_blank table isCount q
  have hback := back_blank table isCount q
  -- the places behind the table are counted on from those in front of it
  have hlength : (SqlPiece.values (RowSelect.ofQuery table isCount q).front).length =
      (SqlPiece.values (RowSelect.ofQuery "" isCount q.parts.blank).front).length := by
    rw [← SqlPiece.length_values_map_blank, hfront, SqlPiece.length_values_map_blank]
  rw [RowSelect.render_pieces, textBefore, textBehind, hlength, ← SqlPiece.texts_map_blank (RowSelect.front _),
    ← SqlPiece.texts_map_blank (RowSelect.back _), hfront, hback, SqlPiece.texts_map_blank, SqlPiece.texts_map_blank]
  rfl

theorem values_ofQuery (table : String) (isCount : Bool) (q : RowQuery) :
    SqlPiece.values (RowSelect.ofQuery table isCount q).pieces = q.bound isCount := by
  have hcolumns : SqlPiece.values (RowSelect.ofQuery table isCount q).columns =
      if !isCount && q.annotated then [.text q.entityType] else [] := by
    cases isCount <;> cases hannotated : q.annotated <;>
      simp [RowSelect.columns, RowSelect.ofQuery, RowSelect.idOfRow, hannotated]
  have hfilters : SqlPiece.values (RowSelect.ofQuery table isCount q).filters =
      (match q.pks with
        | some pks => [.ints pks]
        | none => []) ++
      (match q.publicId with
        | some u => [.text q.entityType, .uuid u]
        | none => []) := by
    cases hpks : q.pks <;> cases hid : q.publicId <;>
      simp [RowSelect.filters, RowSelect.ofQuery, RowSelect.idOfRow, hpks, hid]
  have hpage : SqlPiece.values (RowSelect.ofQuery table isCount q).page =
      if isCount then []
      else
        (match q.limit with
          | some n => [.int (RowSelect.word n)]
          | none => []) ++
        if 0 < q.offset then [.int (RowSelect.word q.offset)] else [] := by
    cases isCount with
    | true => rfl
    | false =>
      cases hlimit : q.limit <;> rcases Nat.eq_zero_or_pos q.offset with hoffset | hoffset <;>
        simp [RowSelect.page, RowSelect.ofQuery, hlimit, hoffset, Nat.ne_of_gt]
  simp only [RowSelect.pieces, List.cons_append, SqlPiece.values_text, SqlPiece.values_append, hcolumns, hfilters,
    hpage, RowQuery.bound, List.append_assoc]

theorem placesIn_ofQuery {name : String} (h : IsName name) (isCount : Bool) (q : RowQuery) :
    placesIn (SqlPiece.render (RowSelect.ofQuery ("\"" ++ name ++ "\"") isCount q).pieces).toList =
      List.range' 1 (q.bound isCount).length := by
  rw [SqlPiece.render, SqlPiece.placesIn_texts _ (RowSelect.isPlain_pieces h isCount q), values_ofQuery]

/-- A select and what is bound to it, as the parts of its query have it: its text holds the name of the table and
places for the values, numbered from one up. -/
structure SelectText (table : String) (isCount : Bool) (q : RowQuery) (ps : List SqlPiece) : Prop where
  text : SqlPiece.render ps = textBefore isCount q.parts ++ ("\"" ++ table ++ "\"") ++ textBehind isCount q.parts
  places : placesIn (SqlPiece.render ps).toList = List.range' 1 (q.bound isCount).length
  values : SqlPiece.values ps = q.bound isCount

/-! ## Statements about triggers -/

/-- A text with gaps, and what goes into them. -/
def fill : List String → List String → String
  | [], _ => ""
  | text :: texts, pieces => text ++ pieces.headD "" ++ fill texts pieces.tail

/-- The text of a statement that drops a trigger, around its gaps. -/
def dropTemplate : List String := ["DROP TRIGGER IF EXISTS ", " ON "]

/-- The text of a statement that creates the trigger of a change, around its gaps. -/
def createTemplate : RowChange → List String
  | .insert =>
    ["CREATE TRIGGER ", " AFTER INSERT ON ", " FOR EACH ROW EXECUTE FUNCTION public_id_mapping_after_insert(", ")"]
  | .delete =>
    ["CREATE TRIGGER ", " AFTER DELETE ON ", " FOR EACH ROW EXECUTE FUNCTION public_id_mapping_after_delete(", ")"]

def triggerTemplates : List (List String) := [dropTemplate, createTemplate .insert, createTemplate .delete]

theorem TriggerStatement.text_drop (trigger table : String) :
    (drop trigger table).text = fill dropTemplate [trigger, table] := by
  unfold text
  simp [fill, dropTemplate, String.append_assoc]

theorem TriggerStatement.text_create (trigger table : String) (change : RowChange) (entityType : String) :
    (create trigger table change entityType).text = fill (createTemplate change) [trigger, table, entityType] := by
  unfold text
  cases change <;> simp [fill, createTemplate, String.append_assoc]

/-- A name between double quotes, or an entity type between single ones. -/
def QuotedPiece (p : String) : Prop :=
  (∃ name, IsName name ∧ p = "\"" ++ name ++ "\"") ∨ ∃ tag, IsTag tag ∧ p = "'" ++ tag ++ "'"

/-- Only pieces between quotes go into the text of a statement. -/
def TriggerStatement.IsQuoted (t : TriggerStatement) : Prop :=
  ∃ texts ∈ triggerTemplates, ∃ pieces, t.text = fill texts pieces ∧ ∀ p ∈ pieces, QuotedPiece p

theorem isQuoted_placeTrigger {table entityType : String} (hname : IsName table) (htag : IsTag entityType)
    (change : RowChange) : ∀ t ∈ placeTrigger table entityType change, t.IsQuoted := by
  have htable : QuotedPiece ("\"" ++ table ++ "\"") := .inl ⟨table, hname, rfl⟩
  have htrigger : QuotedPiece ("\"" ++ triggerName table change ++ "\"") := .inl ⟨_, hname.triggerName change, rfl⟩
  have htype : QuotedPiece ("'" ++ entityType ++ "'") := .inr ⟨entityType, htag, rfl⟩
  have hcreate : createTemplate change ∈ triggerTemplates := by cases change <;> simp [triggerTemplates]
  rw [placeTrigger, List.forall_mem_cons, List.forall_mem_singleton]
  constructor
  · refine ⟨dropTemplate, List.mem_cons_self, _, TriggerStatement.text_drop _ _, ?_⟩
    exact List.forall_mem_cons.2 ⟨htrigger, List.forall_mem_singleton.2 htable⟩
  · refine ⟨createTemplate change, hcreate, _, TriggerStatement.text_create _ _ _ _, ?_⟩
    exact List.forall_mem_cons.2 ⟨htrigger, List.forall_mem_cons.2 ⟨htable, List.forall_mem_singleton.2 htype⟩⟩

/-! ## No data in statements -/

/-- **No data goes into the text of a statement.** Whatever is registered, queries of one entity type that have the
same parts are sent as the same text, for rows and for their number. The only name in it that comes from elsewhere is
that of the table, between quotes; each other value is bound to a place of its own, in the order of the places. A
statement about a trigger is made of fixed texts and of pieces between quotes, and there is none if a piece cannot be
quoted. -/
theorem sqlText_holds_no_data (registry : Registry) (isCount : Bool) (q q' : RowQuery) (quoted : String)
    (hquoted : SqlStore.table registry q.entityType = .ok quoted) (htype : q'.entityType = q.entityType)
    (hparts : q'.parts = q.parts) (table entityType : String) :
    (SqlStore.table registry q'.entityType = .ok quoted ∧
      SqlPiece.render (RowSelect.ofQuery quoted isCount q').pieces =
        SqlPiece.render (RowSelect.ofQuery quoted isCount q).pieces ∧
      ∃ model, registry.get? q.entityType = some model ∧ IsName model.table ∧
        SelectText model.table isCount q (RowSelect.ofQuery quoted isCount q).pieces ∧
        SelectText model.table isCount q' (RowSelect.ofQuery quoted isCount q').pieces) ∧
    (∀ n < 2 ^ 63, (RowSelect.word n).toInt = n) ∧
    ((∃ fault, triggerStatements table entityType = .error fault) ∨
      ∃ ts, triggerStatements table entityType = .ok ts ∧ ∀ t ∈ ts, t.IsQuoted) := by
  obtain ⟨model, hmodel, hname, rfl⟩ := (SqlStore.table_eq_ok_iff registry q.entityType quoted).1 hquoted
  have hselect (q : RowQuery) :
      SelectText model.table isCount q (RowSelect.ofQuery ("\"" ++ model.table ++ "\"") isCount q).pieces :=
    ⟨render_ofQuery _ isCount q, placesIn_ofQuery hname isCount q, values_ofQuery _ isCount q⟩
  refine ⟨⟨htype ▸ hquoted, ?_, model, hmodel, hname, hselect q, hselect q'⟩,
    fun n hn => Int64.toInt_ofNat_of_lt hn, ?_⟩
  · rw [(hselect q').text, (hselect q).text, hparts]
  · cases hts : triggerStatements table entityType with
    | error fault => exact .inl ⟨fault, rfl⟩
    | ok ts =>
      obtain ⟨hname, htag, rfl⟩ := (triggerStatements_eq_ok_iff table entityType ts).1 hts
      exact .inr ⟨_, rfl, List.forall_mem_append.2
        ⟨isQuoted_placeTrigger hname htag .insert, isQuoted_placeTrigger hname htag .delete⟩⟩

/-- A page of two widgets, and another page of three. -/
theorem sqlText_holds_no_data_widgets :
    SqlPiece.render (RowSelect.ofQuery "\"shop_widget\"" false
        ⟨"shop.widget", some [1, 2], none, none, 5, some 2, true⟩).pieces =
      SqlPiece.render (RowSelect.ofQuery "\"shop_widget\"" false
        ⟨"shop.widget", some [7, 8, 9], none, none, 6, some 3, true⟩).pieces ∧
    SqlPiece.render (RowSelect.ofQuery "\"shop_widget\"" false
        ⟨"shop.widget", some [7, 8, 9], none, none, 6, some 3, true⟩).pieces =
      "SELECT t.id, to_jsonb(t) - 'id' AS data, " ++
        "(SELECT m.public_id FROM public_id_mappings m WHERE m.entity_type = $1 AND m.entity_row_id = t.id) " ++
        "AS public_id FROM \"shop_widget\" t WHERE TRUE AND t.id = ANY($2) ORDER BY t.id ASC LIMIT $3 OFFSET $4" ∧
    SqlPiece.values (RowSelect.ofQuery "\"shop_widget\"" false
        ⟨"shop.widget", some [7, 8, 9], none, none, 6, some 3, true⟩).pieces =
      [.text "shop.widget", .ints [7, 8, 9], .int 3, .int 6] ∧
    ∃ ts, triggerStatements "shop_widget" "shop.widget" = .ok ts ∧ ∀ t ∈ ts, t.IsQuoted := by
  obtain ⟨⟨-, hsame, model, -, -, hselect, -⟩, -, htriggers⟩ := sqlText_holds_no_data .widgets false
    ⟨"shop.widget", some [7, 8, 9], none, none, 6, some 3, true⟩
    ⟨"shop.widget", some [1, 2], none, none, 5, some 2, true⟩ "\"shop_widget\"" rfl rfl rfl
    "shop_widget" "shop.widget"
  exact ⟨hsame, by decide +kernel, hselect.values, htriggers.resolve_left nofun⟩

end RowIdentity
