import Mathlib
import CardBrowser.Proofs.Search.Join
import CardBrowser.Proofs.Search.Numbers

/-!
# Searches that sort by a column of whole numbers

`ascending_run_by_number` says what such a search lists, and that it runs. Cards come in the order
of what their numbers count as, so beyond `2^53`, where floating-point numbers lie apart, a greater
number may come first: `greater_number_first`.
-/

namespace CardBrowser.Search

open CardBrowser.Database CardBrowser.Sql

variable {database : Database} {notes : Table StoredNote} {cards : Table Card} {today : Int}
  {text name written : String} {predicate : Predicate} {joined : Bool} {sources : From}
  {value : Expr} {direction : Direction}

/-! ## When these searches run -/

/-- A query for sort values is accepted where the plain query is, if the sort value is. -/
theorem accepted_value_query (h : (plainQuery predicate joined).Accepted database sources)
    (hheight : value.height ≤ greatestHeight) (htables : value.tables = [])
    (hplaceholders : value.placeholders = 0)
    (hcheck : value.check database.tables [sampleFrame sources] = .ok ()) :
    (valueQuery value (Selection.ofPredicate predicate joined).filter
      predicate.parameters).Accepted database sources := by
  have hexprs : ∀ {p : Expr → Prop}, (∀ expr ∈ (plainQuery predicate joined).exprs, p expr) →
      p value → ∀ expr ∈ (valueQuery value (Selection.ofPredicate predicate joined).filter
        predicate.parameters).exprs, p expr := by
    intro p hplain hvalue
    obtain ⟨hid, hfilter⟩ := Query.forall_exprs.1 hplain
    exact forall_value_exprs.2 ⟨hid _ List.mem_cons_self, hvalue, hfilter⟩
  refine ⟨hexprs h.height hheight, hexprs h.nested ?_, hexprs h.resolved hcheck, ?_, h.patterns⟩
  · rw [htables]
    exact fun _ hmem => absurd hmem List.not_mem_nil
  · refine h.parameters.trans ?_
    show max (max 0 0) _ = max (max (max 0 0) value.placeholders) _
    rw [hplaceholders]
    rfl

/-- A search that sorts by a column of cards in the query succeeds. -/
theorem run_inline_by_number (hshows : database.ShowsCards) (hcards : database.cards = some cards)
    (hnotes : database.notes = some notes)
    (hpredicate : Predicate.ofText today text = .ok predicate)
    (hname : name ∈ cardNumbers.map Prod.fst)
    (hheight : (Plan.selection predicate ("c." ++ name)).filter.height ≤ greatestHeight)
    (hpatterns : ∀ value ∈ predicate.parameters, isLongPattern value = false) :
    ∃ ids, ((Plan.inline predicate ("c." ++ name)).run direction database).1 = .ok ids := by
  have hreads := reads_only_of_text hpredicate
  obtain ⟨sources, hsources⟩ := sources_of_tables hshows hcards hnotes
    (Plan.selection predicate ("c." ++ name))
  have hjoined : (predicate.mentions "n" || Text.mentionsAlias ("c." ++ name) "n") = true ∨
      predicate.mentions "n" = false := by
    cases predicate.mentions "n" <;> simp
  have hplain := accepted_of_text hshows hsources hpredicate hjoined hheight
    (not_has_long_pattern hpatterns _)
  have hlow : (Expr.column (some "c") name).height = 2 := rfl
  have hcheck : (Expr.column (some "c") name).check database.tables [sampleFrame sources] =
      .ok () :=
    Expr.check_of_resolve (resolve_card_column hshows hsources hname)
  have hvalue : (valueQuery (.column (some "c") name)
      (Plan.selection predicate ("c." ++ name)).filter predicate.parameters).Accepted database
        sources :=
    accepted_value_query hplain (by rw [hlow]; decide) rfl rfl hcheck
  refine ⟨_, Plan.run_inline_eq_ok_iff.2 ⟨_, _, sources, ⟨read_card_column name hname,
    Expr.expand_of_reads_only (reads_only_filter hreads _), hsources, ?_⟩, rfl⟩⟩
  exact (accepted_rank_query_iff (by rw [hlow]; decide)).2 hvalue

/-- A search that sorts a table by a column of cards succeeds if the name of the table is good. -/
theorem run_materialized_by_number (hshows : database.ShowsCards)
    (hcards : database.cards = some cards) (hnotes : database.notes = some notes)
    (hpredicate : Predicate.ofText today text = .ok predicate)
    (hname : name ∈ cardNumbers.map Prod.fst)
    (hheight : (Plan.selection predicate ("c." ++ name)).filter.height ≤ greatestHeight)
    (hpatterns : ∀ value ∈ predicate.parameters, isLongPattern value = false)
    {table : String} (htable : database.NamesSortTable written table) :
    ∃ ids, ((Plan.materialized written predicate ("c." ++ name)).run direction database).1 =
      .ok ids := by
  have hexpression : isSortExpression ("c." ++ name) = true := by
    unfold isSortExpression
    rw [read_card_column name hname]
    rfl
  obtain ⟨ids, hrun⟩ :=
    run_inline_by_number hshows hcards hnotes hpredicate hname hheight hpatterns
  exact ⟨ids, (run_inline_iff_run_materialized htable (hshows.spares table)
    (reads_only_of_text hpredicate) hexpression).1 hrun⟩

/-! ## What these searches list -/

variable {column : String × (Card → Int)} {plan : Plan} {ids : List Int}

/-- A search that sorts by a column of cards lists those that it finds in the order of what their
numbers count as. -/
theorem run_by_number_listing (hpredicate : Predicate.ofText today text = .ok predicate)
    (hcolumn : column ∈ cardNumbers) (hshows : database.ShowsCards)
    (hcards : database.cards = some cards)
    (hrange : ∀ card ∈ cards.rows, Text.isInt64 (column.2 card) = true)
    (hplan : plan = Plan.inline predicate ("c." ++ column.1) ∨
      plan = Plan.materialized written predicate ("c." ++ column.1))
    (hrun : (plan.run .ascending database).1 = .ok ids) :
    ∃ listed : List Card, ids = listed.map (·.id) ∧
      (∀ card, card ∈ listed ↔ card ∈ cards.rows ∧
        database.finds (Plan.selection predicate ("c." ++ column.1)) card.id = true) ∧
      AscendsBy (fun card => sortedAs (column.2 card)) listed := by
  have hreads := reads_only_of_text hpredicate
  have hread := read_card_column column.1 (List.mem_map.2 ⟨column, hcolumn, rfl⟩)
  have htables : (Plan.selection predicate ("c." ++ column.1)).condition.tables = [] := by
    show predicate.guarded.tables = []
    rw [guarded_of_text hpredicate]
    exact Expr.tables_of_reads_only hreads
  rcases hplan with rfl | rfl
  · obtain ⟨value, hvalue, hlisting⟩ := run_inline_listing hreads hshows hrun
    obtain rfl := Option.some.inj (hread.symm.trans hvalue)
    exact listing_by_number hcolumn hcards hrange hlisting
  · obtain ⟨cleared, hdrop, -⟩ := Plan.run_materialized_eq_ok_iff.1 hrun
    obtain ⟨table, rfl⟩ := drop_eq_without hdrop
    have hcleared : (Plan.materialized written predicate ("c." ++ column.1)).cleared database =
        database.without table := Plan.cleared_materialized hdrop
    have hshown := hshows.without table
    rw [← hcleared] at hshown
    obtain ⟨value, hvalue, hlisting⟩ := run_materialized_listing hreads hshown hrun
    obtain rfl := Option.some.inj (hread.symm.trans hvalue)
    unfold Plan.Lists at hlisting
    rw [hcleared] at hlisting
    -- Neither the cards nor what is found among them has changed with the table.
    have hcards : (database.without table).cards = some cards := hcards
    simpa only [finds_without htables] using listing_by_number hcolumn hcards hrange hlisting

/-- A search by a column of whole numbers lists the cards that it finds and no others. A number that
is negative counts as itself and any other as the floating-point number nearest to it; cards come in
ascending order of that, and of their ids where it is the same. So they are in the order of the
numbers themselves unless one of two numbers beyond `2^53` that count as the same is greater but has
the smaller id. The search does run if it is neither too high nor has a long pattern. -/
theorem ascending_run_by_number (connection : Connection) (registry : Registry)
    (options : PlanOptions) (sortType text name : String) (number : Card → Int) (cached : Bool)
    (today : Int) (predicate : Predicate) (plan : Plan) (cards : Table Card)
    (hpredicate : Predicate.ofText today text = .ok predicate)
    (hcolumn : (name, number) ∈ cardNumbers)
    (hkey : (registry.sortKey sortType).1 = some ⟨some ("c." ++ name), cached⟩)
    (hplan : (planFor registry options predicate sortType).1 = some plan)
    (hstrategy : plan.strategy ≠ .direct) (hshows : connection.database.ShowsCards)
    (hcards : connection.database.cards = some cards)
    (hrange : ∀ card ∈ cards.rows, Text.isInt64 (number card) = true) :
    (∀ ids, (plan.run .ascending connection).1 = .ok ids →
      (plan.execute .ascending connection).1 = ids ∧
      ∃ listed : List Card, ids = listed.map (·.id) ∧
        (∀ card, card ∈ listed ↔ card ∈ cards.rows ∧
          connection.database.finds (Plan.selection predicate ("c." ++ name)) card.id = true) ∧
        AscendsBy (fun card => sortedAs (number card)) listed ∧
        (AscendsBy number listed ↔ ∀ card ∈ listed, ∀ other ∈ listed, card.id < other.id →
          number other < number card → sortedAs (number other) < sortedAs (number card)) ∧
        ((∀ card ∈ listed, number card ≤ 2 ^ 53) → AscendsBy number listed)) ∧
    (∀ notes, connection.database.notes = some notes →
      (Plan.selection predicate ("c." ++ name)).filter.height ≤ greatestHeight →
      (∀ value ∈ predicate.parameters, isLongPattern value = false) →
      (plan.strategy = .materialized →
        ∃ table, connection.database.NamesSortTable options.sortTable table) →
      ∃ ids, (plan.run .ascending connection).1 = .ok ids) := by
  have hsorts : plan = Plan.inline predicate ("c." ++ name) ∨
      plan = Plan.materialized options.sortTable predicate ("c." ++ name) := by
    obtain ⟨key, expression, hsort, hexpression, hplan⟩ := Plan.sorts_of_plan_for hplan hstrategy
    obtain rfl := Option.some.inj (hkey.symm.trans hsort)
    obtain rfl := Option.some.inj hexpression
    exact hplan
  have hname : name ∈ cardNumbers.map Prod.fst := List.mem_map.2 ⟨_, hcolumn, rfl⟩
  constructor
  · intro ids hrun
    have hexecute : (plan.execute .ascending connection).1 = ids := by
      show (plan.run .ascending connection).1.toOption.getD [] = ids
      rw [hrun]
      rfl
    obtain ⟨listed, hids, hlisted, hascends⟩ := run_by_number_listing hpredicate hcolumn hshows
      hcards hrange hsorts ((Plan.run_connection_eq_ok_iff plan).1 hrun)
    have hnumbers : ∀ card ∈ listed, Text.isInt64 (number card) = true :=
      fun card hmem => hrange card ((hlisted card).1 hmem).1
    have hiff := ascends_by_number_iff hnumbers hascends
    refine ⟨hexecute, listed, hids, hlisted, hascends, hiff, fun hsmall => ?_⟩
    refine hiff.2 fun card hcard other hother _ hlt => ?_
    rw [sorted_as_of_le (hsmall card hcard), sorted_as_of_le (hsmall other hother)]
    exact Int.cast_lt.2 hlt
  · intro notes hnotes hheight hpatterns htable
    have hruns : ∃ ids, (plan.run .ascending connection.database).1 = .ok ids := by
      rcases hsorts with rfl | rfl
      · exact run_inline_by_number hshows hcards hnotes hpredicate hname hheight hpatterns
      · obtain ⟨table, htable⟩ := htable rfl
        exact run_materialized_by_number hshows hcards hnotes hpredicate hname hheight hpatterns
          htable
    obtain ⟨ids, hrun⟩ := hruns
    exact ⟨ids, (Plan.run_connection_eq_ok_iff plan).2 hrun⟩

/-! ## Numbers beyond `2^53` -/

/-- The first of two cards is due a day after the second, on a day beyond `2^53`. -/
def lateCards : Table Card :=
  (Table.empty.insert { id := 1, noteId := 10, due := 2 ^ 53 + 1 }).insert
    { id := 2, noteId := 10, due := 2 ^ 53 }

/-- A connection to these cards and their note. -/
def lateConnection : Connection where
  location := .memory
  config := {}
  database :=
    { notes := some (Table.empty.insert ⟨10, 1, 0, "", "a", "a"⟩)
      cards := some lateCards }

/-- The search for all cards by a column that sorts by due days. -/
theorem plan_for_due : (planFor (columnOf "c.due") ⟨"tmp", none⟩ .everything "k").1 =
    some (Plan.inline .everything "c.due") := by
  decide

/-- The search lists these cards by what their due days count as. -/
theorem ascending_run_by_number_late : ∃ ids listed,
    ((Plan.inline .everything "c.due").run .ascending lateConnection).1 = .ok ids ∧
      ids = listed.map Card.id ∧ AscendsBy (fun card => sortedAs card.due) listed := by
  obtain ⟨hlisted, hruns⟩ := ascending_run_by_number lateConnection (columnOf "c.due")
    ⟨"tmp", none⟩ "k" "" "due" Card.due false 0 .everything _ lateCards (by decide)
    (by simp [cardNumbers]) (by decide) plan_for_due (by decide) ⟨rfl, rfl⟩ rfl
    (by decide)
  obtain ⟨ids, hrun⟩ := hruns _ rfl (by decide) (by simp [Predicate.everything])
    (fun h => nomatch h)
  obtain ⟨-, listed, hids, -, hascends, -⟩ := hlisted ids hrun
  exact ⟨ids, listed, hrun, hids, hascends⟩

/-- The two due days count as the same, so the search lists the greater one first. -/
theorem greater_number_first : ∃ (predicate : Predicate) (plan : Plan) (first second : Card),
    Predicate.ofText 0 "" = .ok predicate ∧
    (planFor (columnOf "c.due") ⟨"tmp", none⟩ predicate "k").1 = some plan ∧
    plan.strategy = .inline ∧ lateConnection.database.ShowsCards ∧
    lateConnection.database.cards = some lateCards ∧ lateCards.rows = [first, second] ∧
    Text.isInt64 first.due = true ∧ Text.isInt64 second.due = true ∧
    (plan.run .ascending lateConnection).1 = .ok [first.id, second.id] ∧
    second.due < first.due := by
  have hvalue : Expr.ofText? "c.due" = some (cardColumn "due") := by decide
  have hrun : ((Plan.inline .everything "c.due").run .ascending lateConnection).1 = .ok [1, 2] :=
    run_inline_eq_ok (by decide) ⟨rfl, rfl⟩ hvalue (by decide)
      (show _ = [1, 2] by decide) (List.Perm.refl _) (by decide)
  exact ⟨.everything, _, _, _, by decide, plan_for_due, rfl, ⟨rfl, rfl⟩, rfl, rfl,
    by decide, by decide, hrun, by decide⟩

end CardBrowser.Search
