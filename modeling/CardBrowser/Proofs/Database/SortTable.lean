import Mathlib
import CardBrowser.Proofs.Database.Query
import CardBrowser.Proofs.Database.Rank
import CardBrowser.Proofs.Sql.Token

/-!
# Sort tables

What becomes of a sort table: `drop_sort_table` removes what was left of an earlier one,
`execute_create_eq_ok_iff` says when it can be created and what it then holds, and
`ranked_sort_table` reads it. `Database.without` is the database between the two steps, and
`rankedPairs` what is read at the end.
-/

namespace CardBrowser.Database

open CardBrowser.Sql CardBrowser.Search

variable {database : Database} {name other : String}

/-! ## Tables of one name -/

/-- A name is the same as itself. -/
theorem same_name_self : sameName name name = true :=
  beq_self_eq_true _

/-- Either of two names may come first. -/
theorem same_name_comm {first second : String} : sameName first second = sameName second first :=
  Bool.beq_comm

/-- Names that are the same name are told apart from others alike. -/
theorem same_name_trans {first second third : String} (h : sameName first second = true) :
    sameName first third = sameName second third := by
  have h : Text.foldText first = Text.foldText second := eq_of_beq h
  unfold sameName
  rw [h]

/-- Whether a name belongs to the database does not depend on the case of its letters. -/
theorem is_internal_congr {first second : String} (h : sameName first second = true) :
    isInternal first = isInternal second := by
  have h : first.toList.map Text.foldCase = second.toList.map Text.foldCase := by
    have h := congrArg String.toList (eq_of_beq h)
    simpa [Text.foldText] using h
  unfold isInternal
  rw [h]

/-- No table of a name is left without it. -/
theorem named_unnamed_self (tables : List (String × Source)) :
    named? (unnamed tables name) name = none := by
  unfold named? unnamed
  simp

/-- Tables of other names stay. -/
theorem named_unnamed (tables : List (String × Source)) (h : sameName other name = false) :
    named? (unnamed tables name) other = named? tables other := by
  have hpred : (fun table : String × Source => decide (!sameName table.1 name) &&
      sameName table.1 other) = fun table => sameName table.1 other := by
    funext table
    cases hother : sameName table.1 other with
    | false => simp
    | true => simp [same_name_trans hother, h]
  unfold named? unnamed
  rw [List.find?_filter]
  simpa using congrArg (fun p => (tables.find? p).map Prod.snd) hpred

/-- Nothing is taken away where there is no table of the name. -/
theorem unnamed_of_named_eq_none {tables : List (String × Source)}
    (h : named? tables name = none) : unnamed tables name = tables := by
  unfold named? at h
  rw [Option.map_eq_none_iff, List.find?_eq_none] at h
  exact List.filter_eq_self.2 fun table hmem => by simpa using h table hmem

/-- A database without the temporary table of a name. -/
def without (database : Database) (name : String) : Database :=
  { database with temporary := unnamed database.temporary name }

/-- A name means the same table after the temporary table of another name is gone. -/
theorem tables_without
    (h : (named? database.temporary name).isSome = true → sameName other name = false) :
    (database.without name).tables other = database.tables other := by
  have hnamed : named? (unnamed database.temporary name) other =
      named? database.temporary other := by
    cases hstale : named? database.temporary name with
    | none => rw [unnamed_of_named_eq_none hstale]
    | some source => exact named_unnamed _ (h (by rw [hstale]; rfl))
  unfold tables
  show (named? (unnamed database.temporary name) other <|> database.lasting? other) = _
  rw [hnamed]

/-! ## Names of sort tables -/

/-- A database takes a text for the name of a sort table: it reads the same name in the statement
that creates the table and in the one that drops it, and the name belongs neither to the database
itself nor, unless there is a temporary table of that name, to a computed table. -/
structure NamesSortTable (database : Database) (written name : String) : Prop where
  created : newNameOfText written = .ok name
  dropped : Drop.ofText (Command.dropTable written).text = .ok ⟨true, ⟨some "temp", name⟩⟩
  free : isInternal name = false
  stored : named? database.temporary name = none → computedName? name = none

/-- The statement that drops a temporary table, read up to its end. -/
theorem read_drop_temporary (tokens : List Token) :
    readDrop (.name "DROP" :: .name "TABLE" :: .name "IF" :: .name "EXISTS" :: .name "temp" ::
        .symbol "." :: tokens) =
      (readName tokens).map fun named => (⟨true, ⟨some "temp", named.1⟩⟩, named.2) := by
  have hdrop : readDrop (.name "DROP" :: .name "TABLE" :: .name "IF" :: .name "EXISTS" ::
      .name "temp" :: .symbol "." :: tokens) =
        readTableName (.name "temp" :: .symbol "." :: tokens) >>= fun named =>
          .ok (⟨true, named.1⟩, named.2) := rfl
  have htable : readTableName (.name "temp" :: .symbol "." :: tokens) =
      readName tokens >>= fun named => .ok (⟨some "temp", named.1⟩, named.2) := rfl
  rw [hdrop, htable]
  cases readName tokens <;> rfl

/-- The statement that drops a table reads an identifier as it is written unless it is reserved. -/
theorem drop_of_is_name {written : String} (h : Text.isName written.toList = true)
    (hreserved : isReserved written = false) :
    Drop.ofText (Command.dropTable written).text = .ok ⟨true, ⟨some "temp", written⟩⟩ := by
  have hname : readName [.name written] = .ok (written, []) := by
    simp [readName, Token.name?, hreserved]
  unfold Drop.ofText
  rw [Token.of_text_drop_name h, read_drop_temporary, hname]
  rfl

/-- An identifier names a sort table if it is neither reserved nor the name of something else. -/
theorem names_sort_table_of_is_name {written : String} (h : Text.isName written.toList = true)
    (hreserved : isReserved written = false) (hif : Text.foldText written ≠ "if")
    (hfree : isInternal written = false) (hstored : computedName? written = none) :
    database.NamesSortTable written written where
  created := by
    have hname : readName [.name written, .name "AS"] = .ok (written, [.name "AS"]) := by
      simp [readName, Token.name?, hreserved]
    have hstart : startsWith "if" [.name written, .name "AS"] = false := by
      simp [startsWith, Token.isKeyword, hif]
    unfold newNameOfText
    simp only [Token.of_text_name_as h, hstart, Bool.false_eq_true, if_false, hname]
    rfl
  dropped := drop_of_is_name h hreserved
  free := hfree
  stored := fun _ => hstored

/-- A name that does not begin with the letter of `pragma_` is not that of a setting's table. -/
theorem not_setting_table {table : String}
    (h : (table.toList.map Text.foldCase).head? ≠ some 'p') (setting : String) :
    isSettingTable table setting = false := by
  refine beq_eq_false_iff_ne.2 fun hsame => h ?_
  have hsame := congrArg String.toList hsame
  unfold Text.foldText at hsame
  rw [String.toList_ofList, String.toList_ofList, String.toList_append] at hsame
  rw [hsame]
  rfl

/-- The name that sort tables have unless they are given another one is a good one. -/
theorem names_sort_table_tmp : database.NamesSortTable "tmp" "tmp" := by
  have hsettings : settings.any (isSettingTable "tmp") = false :=
    List.any_eq_false.2 fun setting _ => Bool.eq_false_iff.1 (not_setting_table (by decide) setting)
  have hstored : computedName? "tmp" = none := by
    unfold computedName?
    rw [hsettings]
    decide
  exact names_sort_table_of_is_name (by decide) (by decide) (by decide) (by decide) hstored

/-- A name that is free is not that of a list of tables. -/
theorem of_list_name_eq_none (h : isInternal name = false) (within : Option Part) :
    Part.ofListName? within name = none := by
  have hlist : ∀ part : Part, part.listNames.any (sameName name) = false := by
    intro part
    rw [List.any_eq_false]
    intro listName hmem hsame
    have hinternal : isInternal listName = true := by
      cases part <;> fin_cases hmem <;> decide
    rw [is_internal_congr hsame, hinternal] at h
    cases h
  cases within with
  | none => simp [Part.ofListName?, hlist]
  | some part => cases part <;> simp [Part.ofListName?, hlist]

/-- The tables that a name of the temporary part may mean before any computed one. -/
theorem kept_temporary (database : Database) (name : String) :
    database.kept? ⟨some "temp", name⟩ =
      ((named? database.temporary name).map (Relation.stored .temporary) <|>
        (Part.ofListName? (some .temporary) name).map Relation.list) := by
  have hpart : Part.ofName? "temp" = some .temporary := by decide
  unfold kept?
  simp [hpart, stored?]

/-- Where there is no temporary table of a name, none is taken away. -/
theorem without_eq_self (h : named? database.temporary name = none) :
    database.without name = database := by
  unfold without
  rw [unnamed_of_named_eq_none h]

/-- Dropping a sort table leaves the database without it, whether or not it was there. -/
theorem drop_sort_table {written : String} (h : database.NamesSortTable written name) :
    database.dropTable (Command.dropTable written).text = .ok (database.without name) := by
  have hkept : database.kept? ⟨some "temp", name⟩ =
      (named? database.temporary name).map (Relation.stored .temporary) := by
    rw [kept_temporary, of_list_name_eq_none h.free, Option.map_none, Option.orElse_eq_orElse,
      Option.orElse_eq_or, Option.or_none]
  unfold dropTable
  rw [h.dropped]
  simp only [Except.mapError, Except.ok_bind, relation?, hkept]
  cases hstale : named? database.temporary name with
  | some source => rfl
  | none =>
      rw [h.stored hstale, without_eq_self hstale]
      cases unavailableTables.find? (sameName name) <;> rfl

/-- Whatever is written for the name of a sort table, what the statement drops is temporary. -/
theorem part_of_drop {written : String} {drop : Drop}
    (h : Drop.ofText (Command.dropTable written).text = .ok drop) :
    drop.ifExists = true ∧ drop.table.part = some "temp" := by
  unfold Drop.ofText at h
  rw [Token.of_text_drop] at h
  obtain ⟨⟨read, rest⟩, hread, h⟩ := Except.bind_eq_ok_iff.1 h
  obtain ⟨⟨⟩, hend, ⟨⟩⟩ := Except.bind_eq_ok_iff.1 h
  rcases Token.of_chars_dot ((beforeNul written.toList).length + 17)
    (beforeNul written.toList) with ⟨later, htokens⟩ | ⟨digits, places, later, htokens⟩
  · rw [htokens] at hread
    obtain ⟨named, -, hdrop⟩ := Except.map_eq_ok_iff.1
      ((read_drop_temporary later).symm.trans hread)
    cases hdrop
    exact ⟨rfl, rfl⟩
  · -- A number after the word `temp` belongs to no statement that drops a table.
    rw [htokens] at hread
    have hnumber : readDrop ([.name "DROP", .name "TABLE", .name "IF", .name "EXISTS",
        .name "temp"] ++ .decimal digits places :: later) =
          .ok (⟨true, ⟨none, "temp"⟩⟩, .decimal digits places :: later) := rfl
    cases hnumber.symm.trans hread
    cases hend

/-- A drop statement that can be read leaves the database without the temporary table that it names;
it fails only where there is none. -/
theorem drop_cases {written : String} {drop : Drop}
    (hread : Drop.ofText (Command.dropTable written).text = .ok drop) :
    database.dropTable (Command.dropTable written).text =
        .ok (database.without drop.table.name) ∨
      named? database.temporary drop.table.name = none ∧
        ∃ fault, database.dropTable (Command.dropTable written).text = .error fault := by
  obtain ⟨ifExists, part, name⟩ := drop
  obtain ⟨rfl, rfl⟩ := part_of_drop hread
  unfold dropTable
  rw [hread]
  simp only [Except.mapError, Except.ok_bind, relation?, kept_temporary]
  cases hstale : named? database.temporary name with
  | some source => exact Or.inl rfl
  | none =>
      -- The statement drops nothing else: where it succeeds, the table did not have to exist.
      rw [without_eq_self hstale]
      cases Part.ofListName? (some .temporary) name with
      | some list => exact Or.inr ⟨rfl, _, rfl⟩
      | none =>
          cases computedName? name with
          | some computed => exact Or.inr ⟨rfl, _, rfl⟩
          | none =>
              left
              cases unavailableTables.find? (sameName name) <;> rfl

/-- Dropping a sort table takes away a temporary table at most, whatever is written for its name. -/
theorem drop_eq_without {written : String} {cleared : Database}
    (h : database.dropTable (Command.dropTable written).text = .ok cleared) :
    ∃ name, cleared = database.without name := by
  obtain ⟨drop, hread, -⟩ := Except.bind_eq_ok_iff.1 h
  rcases @drop_cases database written drop (Except.map_error_eq_ok_iff.1 hread) with
    hdrop | ⟨-, fault, hdrop⟩
  · exact ⟨_, Except.ok.inj (h.symm.trans hdrop)⟩
  · rw [h] at hdrop
    cases hdrop

/-! ## Creation and reading -/

/-- A sort table that holds the given pairs of a card id and a sort value. -/
def sortSource (pairs : List (Value × Value)) : Source where
  columns := sortTableColumns
  rows := pairs.map fun pair => [("id", pair.1), ("srt", pair.2)]

/-- A database with a new sort table. -/
def withSortTable (database : Database) (name : String) (pairs : List (Value × Value)) :
    Database :=
  { database with temporary := database.temporary ++ [(name, sortSource pairs)] }

/-- A sort table that is removed again leaves nothing of itself. -/
theorem without_with_sort_table (database : Database) (name : String)
    (pairs : List (Value × Value)) :
    (database.withSortTable name pairs).without name = database.without name := by
  have hadded : unnamed [(name, sortSource pairs)] name = [] := by
    simp [unnamed, same_name_self]
  show { database with temporary := unnamed (database.temporary ++ [(name, sortSource pairs)]) name }
    = _
  unfold unnamed at hadded ⊢
  rw [List.filter_append, hadded, List.append_nil]
  rfl

/-- A temporary table may have any name that belongs neither to the database itself nor to another
temporary table; no index is temporary. -/
theorem check_new_name_eq_ok_iff {sql : String} :
    database.checkNewName .temporary name sql = .ok () ↔
      isInternal name = false ∧ named? database.temporary name = none := by
  have hindex : database.hasIndex .temporary name = false := by
    simp [hasIndex, entries, List.any_map]
  unfold checkNewName checkFreeName
  cases isInternal name with
  | true => simp
  | false =>
      show (_ : Except Fault Unit) = _ ↔ _ ∧ database.stored? .temporary name = none
      cases database.stored? .temporary name with
      | none => simp [hindex, pure, Except.pure]
      | some source => simp [throw, throwThe, MonadExceptOf.throw]

/-- A sort table is created exactly when its name is free and the query for its rows runs, and it
holds them. -/
theorem execute_create_eq_ok_iff {written : String} {value : Expr} {selection : Selection}
    {next : Database} :
    database.execute (.createTable written value selection) = .ok next ↔
      ∃ name, newNameOfText written = .ok name ∧
        (isInternal name = false ∧ named? database.temporary name = none) ∧
        ∃ rows, database.runSelection (Command.createTable written value selection).text selection
            [cardId, value] = .ok rows ∧
          { database with
            temporary := database.temporary ++
              [(name, ⟨sortTableColumns, rows.map sortTableColumns.zip⟩)] } = next := by
  unfold execute sortTableName
  simp only [Except.bind_eq_ok_iff, Except.map_error_eq_ok_iff]
  constructor
  · intro h
    obtain ⟨name, hname, ⟨⟩, hfree, rows, hrows, hnext⟩ := h
    exact ⟨name, hname, check_new_name_eq_ok_iff.1 hfree, rows, hrows, Except.ok.inj hnext⟩
  · intro h
    obtain ⟨name, hname, hfree, rows, hrows, rfl⟩ := h
    exact ⟨name, hname, (), check_new_name_eq_ok_iff.2 hfree, rows, hrows, rfl⟩

/-- A new sort table is found by its name. -/
theorem named_with_sort_table {pairs : List (Value × Value)}
    (h : named? database.temporary name = none) :
    named? (database.withSortTable name pairs).temporary name = some (sortSource pairs) := by
  have hfind : database.temporary.find? (fun table => sameName table.1 name) = none :=
    Option.map_eq_none_iff.1 h
  unfold named? withSortTable
  rw [List.find?_append, hfind, List.find?_singleton, if_pos same_name_self]
  rfl

/-- The values of the columns of a sort table. -/
theorem resolve_sort_table (id value : Value) :
    Scope.resolve none "id" [[(name, [("id", id), ("srt", value)])]] = .ok id ∧
      Scope.resolve none "srt" [[(name, [("id", id), ("srt", value)])]] = .ok value := by
  have hid : sameName "id" "srt" = false := by decide
  have hsort : sameName "srt" "srt" = true := same_name_self
  constructor
  · simp [Scope.resolve, Frame.candidates, Row.get?, same_name_self]
  · simp [Scope.resolve, Frame.candidates, Row.get?, hid, hsort]

/-- The query that reads a sort table. -/
def sortTableQuery : Query :=
  ⟨rankExprs sortColumn (.column none "id"), .integer 1, []⟩

/-- The query that reads a sort table is accepted. -/
theorem accepted_sort_table (pairs : List (Value × Value)) :
    sortTableQuery.Accepted database [(name, sortSource pairs)] where
  height := by decide
  nested expr hexpr table htable := by
    have hnone : ∀ expr ∈ sortTableQuery.exprs, expr.tables = [] := by decide
    rw [hnone expr hexpr] at htable
    cases htable
  resolved expr hexpr := by
    have hsample : sampleFrame [(name, sortSource pairs)] =
        [(name, [("id", Value.null), ("srt", Value.null)])] := rfl
    obtain ⟨hid, hsort⟩ := @resolve_sort_table name .null .null
    rw [hsample]
    simp only [sortTableQuery, Query.exprs, rankExprs, rankTerms, orderTerms, blankFlag, sortColumn,
      List.map_cons, List.map_nil, List.cons_append, List.nil_append, List.mem_cons,
      List.not_mem_nil, or_false] at hexpr
    rcases hexpr with rfl | rfl | rfl | rfl | rfl | rfl <;>
      simp [Expr.check, hid, hsort, Except.map]
  parameters := rfl
  patterns := by
    have htried : (firstTries [(name, sortSource pairs)] (conjuncts (.integer 1))).2 =
        [.integer 1] := by
      have hnote : isAbout "n" (.integer 1) = false := by decide
      simp [firstTries, conjuncts, noteTries?, hnote]
    unfold meetsLongPattern
    simp [sortTableQuery, htried, hasLongPattern]

/-- The query that reads a sort table lists every pair in it. -/
theorem listed_sort_table (pairs : List (Value × Value)) :
    sortTableQuery.listed database [(name, sortSource pairs)] =
      pairs.map fun pair => rankRow pair.2 pair.1 := by
  have hfound : sortTableQuery.found database [(name, sortSource pairs)] =
      pairs.map fun pair => [(name, [("id", pair.1), ("srt", pair.2)])] := by
    have hholds : ∀ frame, holds database.tables [] frame (.integer 1) = true := fun _ => rfl
    unfold Query.found sortTableQuery
    simp only [hholds, List.filter_true]
    induction pairs with
    | nil => rfl
    | cons pair pairs ih => exact congrArg ([(name, [("id", pair.1), ("srt", pair.2)])] :: ·) ih
  unfold Query.listed
  rw [hfound, List.map_map]
  refine List.map_congr_left fun pair _ => ?_
  obtain ⟨hid, hsort⟩ := @resolve_sort_table name pair.1 pair.2
  show (rankExprs sortColumn (.column none "id")).map (fun expr => expr.eval database.tables []
    [[(name, [("id", pair.1), ("srt", pair.2)])]]) = _
  rw [rank_row_eq]
  simp [sortColumn, Expr.eval_of_resolve hid, Expr.eval_of_resolve hsort]

/-- Reading a sort table lists the rows of a ranked query by the pairs in the table. -/
theorem ranked_sort_table {written : String} (pairs : List (Value × Value))
    (hname : newNameOfText written = .ok name) (h : named? database.temporary name = none) :
    (database.withSortTable name pairs).rankedIds (.sortTable written) =
      .ok (rankedPairs pairs) := by
  have hrun : (database.withSortTable name pairs).run (RankedQuery.sortTable written).text
      sortTableQuery (.ok [(name, sortSource pairs)]) =
      .ok (pairs.map fun pair => rankRow pair.2 pair.1) :=
    run_eq_ok_iff.2 ⟨sortTableQuery, rfl, _, rfl, accepted_sort_table pairs,
      (listed_sort_table pairs).symm⟩
  unfold rankedIds sortTableName
  simp only [hname, Except.mapError, Except.ok_bind, named_with_sort_table h]
  show (database.withSortTable name pairs).run (RankedQuery.sortTable written).text
      sortTableQuery (.ok [(name, sortSource pairs)]) >>= _ = _
  rw [hrun]
  have hid : (Expr.column none "id").collation = cardId.collation := rfl
  exact congrArg Except.ok (ranked_rows_congr hid _)

end CardBrowser.Database
