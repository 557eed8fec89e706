import Mathlib
import CardBrowser.Proofs.Column.Registry
import CardBrowser.Proofs.Database.Contents
import CardBrowser.Proofs.Database.SortPairs
import CardBrowser.Proofs.Search.Condition
import CardBrowser.Proofs.Search.Run

/-!
# The choice of a strategy does not show

A search by a sort expression finds the same cards in the same order whether it sorts in the query
or a table: `run_inline_iff_run_materialized` for one database, `strategies_agree` for a search by
a column on a connection. An expression has to leave room for the order terms around it and may
read no tables but cards and notes, which an earlier sort table must not hide; `storeExpressions`
are such expressions.
-/

namespace CardBrowser.Search

open CardBrowser.Database CardBrowser.Sql

variable {database : Database} {predicate : Predicate} {expression written name : String}

/-- Whether a sort expression, if it can be read at all, is not too high for an order term and
reads no tables but those of cards and notes. -/
def isSortExpression (expression : String) : Bool :=
  (Expr.ofText? expression).all fun value =>
    value.height ≤ greatestSortHeight &&
      value.tables.all fun table => sameName table "cards" || sameName table "notes"

/-- Sorting in the query and sorting a table give the same result, or neither gives one. -/
theorem run_inline_iff_run_materialized {direction : Direction} {ids : List Int}
    (hname : database.NamesSortTable written name) (hspares : database.SparesSearch name)
    (hpredicate : predicate.condition.readsOnly shortNames = true)
    (hexpression : isSortExpression expression = true) :
    ((Plan.inline predicate expression).run direction database).1 = .ok ids ↔
      ((Plan.materialized written predicate expression).run direction database).1 = .ok ids := by
  have hfilter : (Plan.selection predicate expression).filter.readsOnly shortNames = true :=
    reads_only_filter hpredicate _
  have hvalue : ∀ value, Expr.ofText? expression = some value →
      value.height ≤ greatestSortHeight ∧ ∀ table ∈ value.tables,
        sameName table "cards" = true ∨ sameName table "notes" = true := by
    intro value hvalue
    simpa [isSortExpression, hvalue] using hexpression
  rw [Plan.run_inline_eq_ok_iff, Plan.run_materialized_eq_ok_iff]
  constructor
  · intro h
    obtain ⟨value, condition, sources, hrank, rfl⟩ := h
    obtain ⟨hheight, htables⟩ := hvalue value hrank.read
    obtain rfl := Expr.eq_of_expand hfilter hrank.filter
    obtain ⟨haccepted, hpairs⟩ := hspares.accepted_value_query hfilter htables
    refine ⟨_, drop_sort_table hname, name, hname.created, ⟨hname.free, named_unnamed_self _⟩,
      value, _, sources, ⟨hrank.read, hrank.filter, ?_, ?_⟩, ?_⟩
    · rw [hspares.sources_without]
      exact hrank.tables
    · exact haccepted.2 ((accepted_rank_query_iff hheight).1 hrank.accepted)
    · rw [hpairs]
  · intro h
    obtain ⟨_, hdrop, _, -, -, value, condition, sources, hlist, rfl⟩ := h
    obtain ⟨hheight, htables⟩ := hvalue value hlist.read
    -- What is dropped is the table of the name that the database reads.
    obtain rfl := Except.ok.inj ((drop_sort_table hname).symm.trans hdrop)
    obtain rfl := Expr.eq_of_expand hfilter hlist.filter
    obtain ⟨haccepted, hpairs⟩ := hspares.accepted_value_query hfilter htables
    refine ⟨value, _, sources, ⟨hlist.read, hlist.filter, ?_, ?_⟩, ?_⟩
    · rw [← hspares.sources_without]
      exact hlist.tables
    · exact (accepted_rank_query_iff hheight).2 (haccepted.1 hlist.accepted)
    · rw [hpairs]

/-! ## Searches by a column -/

/-- The sort expressions that columns give to a database of cards. Some of them fail there, some
only where notes are joined, and some only where they are not. -/
def storeExpressions : List String :=
  ["c.id", "c.nid", "c.did", "c.ord", "c.mod", "c.type", "c.queue", "c.due", "c.ivl", "c.factor",
   "c.reps", "c.lapses", "n.id", "n.mod", "n.sfld", "n.tags", "n.flds", "c.ivl * 2",
   "c.due - c.ivl", "-c.id", "NULLIF(n.sfld, '<null>')", "NULLIF(c.ivl, 0)", "lower(n.sfld)",
   "length(n.sfld)", "NULL", "''", "c.ivl / 4.0", "c.reps > 2",
   "CASE WHEN c.queue < 0 THEN NULL ELSE c.due END",
   "(SELECT NULLIF(n2.sfld, '<null>') FROM notes n2 WHERE n2.id = c.nid)",
   "(SELECT count(*) FROM cards c2 WHERE c2.nid = c.nid)",
   "(SELECT max(c2.due) FROM cards c2 WHERE c2.nid = c.nid)",
   "(select n.sfld from notes n where n.id = c.nid)", "c.no_such_column", "c.nope", "n.missing",
   "c.ivl +", "no_such_function(c.ivl)",
   "(SELECT missing_column FROM notes n2 WHERE n2.id = c.nid)", "sfld", "N.sfld", "mod", "id",
   "ivl", "C.due"]

/-- These expressions leave room for order terms and read cards and notes only; nothing is trimmed
off them. -/
theorem store_expressions_spec : ∀ expression ∈ storeExpressions,
    isSortExpression expression = true ∧
      SortKey.ofExpression expression false = ⟨some expression, false⟩ := by
  -- The expressions are read in parts; to read all of them at once takes too much memory.
  rw [← List.take_append_drop 28 storeExpressions, ← List.take_append_drop 3 (List.drop 28 _),
    List.forall_mem_append, List.forall_mem_append]
  refine ⟨?_, ?_, ?_⟩ <;> decide +kernel

/-- Whatever strategy a search by a column is made to follow, it gives the same result, and no
result if the database rejects its statements. -/
theorem strategies_agree (connection : Connection) (registry : Registry) (column : CustomColumn)
    (source : SortSource) (sortType expression text written name : String) (today : Int)
    (predicate : Predicate) (direction : Direction)
    (hpredicate : Predicate.ofText today text = .ok predicate)
    (hcolumn : registry.lookup sortType = some column) (hsource : column.sort = some source)
    (hanswer : source.ask.1 = .ok expression) (hexpression : expression ∈ storeExpressions)
    (hname : connection.database.NamesSortTable written name)
    (hspares : connection.database.SparesSearch name) :
    ∃ answer : Option (List Int), ∀ forced ∈ [none, some .inline, some .materialized],
      ∃ plan, (planFor registry ⟨written, forced⟩ predicate sortType).1 = some plan ∧
        (plan.run direction connection).1.toOption = answer ∧
        (plan.execute direction connection).1 = answer.getD [] := by
  obtain ⟨hsort, htrimmed⟩ := store_expressions_spec expression hexpression
  have hkey : (registry.sortKey sortType).1 = some ⟨some expression, column.cached⟩ := by
    rw [Registry.sort_key_eq hcolumn hsource hanswer]
    have hread := congrArg SortKey.expression htrimmed
    simpa [SortKey.ofExpression] using hread
  have hagree :
      ((Plan.materialized written predicate expression).run direction connection).1.toOption =
        ((Plan.inline predicate expression).run direction connection).1.toOption := by
    refine Except.to_option_eq_of_ok_iff fun ids => ?_
    rw [Plan.run_connection_eq_ok_iff, Plan.run_connection_eq_ok_iff]
    exact (run_inline_iff_run_materialized hname hspares (reads_only_of_text hpredicate)
      hsort).symm
  refine ⟨((Plan.inline predicate expression).run direction connection).1.toOption, ?_⟩
  intro forced hforced
  have hplan : ∃ plan, (planFor registry ⟨written, forced⟩ predicate sortType).1 = some plan ∧
      (plan.run direction connection).1.toOption =
        ((Plan.inline predicate expression).run direction connection).1.toOption := by
    unfold planFor
    simp only [hkey, Option.map_some, Plan.ofKey, Plan.chooseStrategy]
    refine ⟨_, rfl, ?_⟩
    fin_cases hforced
    · dsimp only
      split_ifs
      · exact hagree
      · rfl
    · rfl
    · exact hagree
  obtain ⟨plan, hplan, hrun⟩ := hplan
  refine ⟨plan, hplan, hrun, ?_⟩
  rw [← hrun]
  rfl

/-- A connection to one card whose note is missing, with an earlier sort table left behind. -/
def staleConnection : Connection where
  location := .memory
  config := {}
  database :=
    { cards := some (Table.empty.insert { id := 1, noteId := 2 })
      notes := some Table.empty
      temporary := [("tmp", ⟨["x"], []⟩)] }

/-- A registry with one column, which keeps its sort values. -/
def intervalColumn : Registry where
  columns :=
    [{ type := "interval", label := "Interval", value := fun _ _ => ""
       sort := some (.constant (.ok "NULLIF(c.ivl, 0)")), cached := true }]

/-- A search by a column that keeps its sort values, where an earlier sort table was left behind. -/
theorem strategies_agree_stale :
    ∃ (predicate : Predicate) (answer : Option (List Int)),
      Predicate.ofText 0 "-is:new" = .ok predicate ∧
      ∀ forced ∈ [none, some .inline, some .materialized], ∃ plan,
        (planFor intervalColumn ⟨"tmp", forced⟩ predicate "interval").1 = some plan ∧
        (plan.execute .descending staleConnection).1 = answer.getD [] := by
  obtain ⟨predicate, hpredicate⟩ : ∃ predicate, Predicate.ofText 0 "-is:new" = .ok predicate :=
    ⟨_, rfl⟩
  obtain ⟨answer, h⟩ := strategies_agree staleConnection intervalColumn _ _ "interval"
    "NULLIF(c.ivl, 0)" "-is:new" "tmp" "tmp" 0 predicate .descending hpredicate rfl rfl rfl
    (by decide) names_sort_table_tmp (fun _ => by decide)
  refine ⟨predicate, answer, hpredicate, fun forced hforced => ?_⟩
  obtain ⟨plan, hplan, -, hexecute⟩ := h forced hforced
  exact ⟨plan, hplan, hexecute⟩

end CardBrowser.Search
