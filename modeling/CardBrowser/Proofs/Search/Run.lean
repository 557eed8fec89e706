import Mathlib
import CardBrowser.Database.Connection
import CardBrowser.Proofs.Database.SortPairs
import CardBrowser.Search.Plan

/-!
# Plans on databases

A plan runs on a connection exactly when it runs on the database of the connection, with the same
result: `run_connection_eq_ok_iff`. On a database the plans that sort by an expression come down to
queries: `run_inline_eq_ok_iff` and `run_materialized_eq_ok_iff`, the latter by way of the three
statements of such a plan, `run_table_eq_ok_iff`.
-/

namespace CardBrowser.Search.Plan

open CardBrowser.Database CardBrowser.Sql

variable {connection : Connection} {database : Database} {direction : Direction} {ids : List Int}

/-! ## Connections -/

/-- A connection runs a command as its database does. -/
theorem execute_connection (command : Command) (connection : Connection) :
    ((Store.execute command connection).1 = .ok () ↔
      (Store.execute command connection.database).1 = .ok ()) ∧
    (Store.execute command connection).2.database =
      (Store.execute command connection.database).2 := by
  cases command with
  | createTable table value selection => exact ⟨Iff.rfl, rfl⟩
  | dropTable table =>
      simp only [Store.execute, Connection.dropTable, Database.execute, Connection.lookUp]
      cases connection.database.dropTable (Command.dropTable table).text with
      | ok next => exact ⟨Iff.rfl, rfl⟩
      | error fault => exact ⟨by simp [Except.mapError], rfl⟩

/-- A connection runs commands as its database does. -/
theorem run_commands_connection (stage : Stage) (commands : List Command)
    (connection : Connection) :
    ((runCommands stage commands connection).1 = .ok () ↔
      (runCommands stage commands connection.database).1 = .ok ()) ∧
    (runCommands stage commands connection).2.database =
      (runCommands stage commands connection.database).2 := by
  induction commands generalizing connection with
  | nil => exact ⟨Iff.rfl, rfl⟩
  | cons command commands ih =>
      obtain ⟨hanswer, hdatabase⟩ := execute_connection command connection
      have hrest := ih (Store.execute command connection).2
      rw [hdatabase] at hrest
      unfold runCommands
      cases hleft : Store.execute command connection with
      | mk left next =>
          cases hright : Store.execute command connection.database with
          | mk right after =>
              rw [hleft, hright] at hanswer hdatabase
              rw [hleft, hright] at hrest
              cases left with
              | ok =>
                  cases right with
                  | ok => exact hrest
                  | error fault => exact absurd (hanswer.1 rfl) (by simp)
              | error error =>
                  cases right with
                  | ok => exact absurd (hanswer.2 rfl) (by simp)
                  | error fault => exact ⟨by simp, hdatabase⟩

/-- A connection runs a query as its database does. -/
theorem run_query_connection (query : FinalQuery) (connection : Connection) :
    (runQuery query direction connection).1 = (runQuery query direction connection.database).1 := by
  cases query with
  | plain query => rfl
  | ranked query => rfl

/-- A connection runs a plan as its database does. -/
theorem run_connection_eq_ok_iff (plan : Plan) :
    (plan.run direction connection).1 = .ok ids ↔
      (plan.run direction connection.database).1 = .ok ids := by
  obtain ⟨hanswer, hdatabase⟩ := run_commands_connection .projection plan.prepare connection
  unfold run
  cases hleft : runCommands .projection plan.prepare connection with
  | mk left next =>
      cases hright : runCommands .projection plan.prepare connection.database with
      | mk right after =>
          rw [hleft, hright] at hanswer hdatabase
          cases left with
          | ok =>
              cases right with
              | ok =>
                  have hdatabase : next.database = after := hdatabase
                  show (runQuery plan.query direction next).1 = _ ↔ _
                  rw [run_query_connection, hdatabase]
              | error fault => exact absurd (hanswer.1 rfl) (by simp)
          | error error =>
              cases right with
              | ok => exact absurd (hanswer.2 rfl) (by simp)
              | error fault => simp

/-- A connection executes a plan as its database does. -/
theorem execute_plan_connection (plan : Plan) (direction : Direction) (connection : Connection) :
    (plan.execute direction connection).1 = (plan.execute direction connection.database).1 ∧
      (plan.execute direction connection).2.database =
        (plan.execute direction connection.database).2 := by
  have hquery : ∀ connection : Connection, (runQuery plan.query direction connection).2.database
      = (runQuery plan.query direction connection.database).2 := by
    intro connection
    unfold runQuery
    cases plan.query <;> rfl
  have hrun : (plan.run direction connection).2.database =
      (plan.run direction connection.database).2 := by
    obtain ⟨hanswer, hdatabase⟩ := run_commands_connection .projection plan.prepare connection
    unfold run
    rcases hleft : runCommands .projection plan.prepare connection with ⟨_ | _, next⟩ <;>
      rcases hright : runCommands .projection plan.prepare connection.database with
        ⟨_ | _, after⟩ <;> rw [hleft, hright] at hanswer hdatabase
    · exact hdatabase
    · exact absurd (hanswer.2 rfl) (by simp)
    · exact absurd (hanswer.1 rfl) (by simp)
    · obtain rfl : next.database = after := hdatabase
      exact hquery next
  constructor
  · exact congrArg (·.getD [])
      (Except.to_option_eq_of_ok_iff fun ids => run_connection_eq_ok_iff plan)
  · show (plan.cleanUp (plan.run direction connection).2).database =
      plan.cleanUp (plan.run direction connection.database).2
    rw [← hrun]
    unfold cleanUp
    cases plan.cleanup with
    | none => rfl
    | some command => exact (execute_connection command _).2

/-! ## Plans with a sort expression -/

variable {predicate : Predicate} {expression written name : String}

/-- A search that sorts in the query runs exactly when the query is prepared. -/
theorem run_inline_eq_ok_iff :
    ((inline predicate expression).run direction database).1 = .ok ids ↔
      ∃ value condition sources,
        database.Prepares rankQuery (selection predicate expression) expression value condition
          sources ∧
        directed (rankedPairs (sortPairs database sources value condition
          (selection predicate expression).parameters)) direction = ids := by
  show ((database.rankedIds _).mapError _ |>.mapError _ |>.map _) = _ ↔ _
  rw [Except.map_eq_ok_iff]
  simp only [Except.map_error_eq_ok_iff, ranked_cards_eq_ok_iff]
  constructor
  · intro h
    obtain ⟨_, ⟨value, condition, sources, hprepared, rfl⟩, rfl⟩ := h
    exact ⟨value, condition, sources, hprepared, rfl⟩
  · intro h
    obtain ⟨value, condition, sources, hprepared, rfl⟩ := h
    exact ⟨_, ⟨value, condition, sources, hprepared, rfl⟩, rfl⟩

/-- A search that sorts a table runs exactly when an earlier table can be dropped, the table can be
created then, and it can be listed. -/
theorem run_table_eq_ok_iff {plan : Plan} {create : Command} {query : RankedQuery}
    (hprepare : plan.prepare = [.dropTable written, create]) (hquery : plan.query = .ranked query) :
    (plan.run direction database).1 = .ok ids ↔
      ∃ cleared, database.dropTable (Command.dropTable written).text = .ok cleared ∧
        ∃ next, cleared.execute create = .ok next ∧
          ∃ ranked, next.rankedIds query = .ok ranked ∧ directed ranked direction = ids := by
  have hdrop : database.execute (.dropTable written) =
      database.dropTable (Command.dropTable written).text := rfl
  unfold run
  rw [hprepare, hquery]
  simp only [runCommands, Store.execute, hdrop]
  cases database.dropTable (Command.dropTable written).text with
  | error fault => simp
  | ok cleared =>
      simp only [Except.ok.injEq, exists_eq_left']
      cases cleared.execute create with
      | error fault => simp
      | ok next =>
          show ((next.rankedIds query).mapError _ |>.mapError _ |>.map _) = _ ↔ _
          rw [Except.map_eq_ok_iff]
          simp [Except.map_error_eq_ok_iff]

/-- A search that sorts a table runs exactly when an earlier table of the name can be dropped, the
name is free then, and the query for the rows of the table is prepared. -/
theorem run_materialized_eq_ok_iff :
    ((materialized written predicate expression).run direction database).1 = .ok ids ↔
      ∃ cleared, database.dropTable (Command.dropTable written).text = .ok cleared ∧
        ∃ name, newNameOfText written = .ok name ∧
          (isInternal name = false ∧ named? cleared.temporary name = none) ∧
          ∃ value condition sources,
            cleared.Prepares valueQuery (selection predicate expression) expression value condition
              sources ∧
            directed (rankedPairs (sortPairs cleared sources value condition
              (selection predicate expression).parameters)) direction = ids := by
  rw [run_table_eq_ok_iff rfl rfl]
  refine exists_congr fun cleared => and_congr_right fun _ => ?_
  simp only [create_sort_table_eq_ok_iff]
  -- The table that is created is the one that is read.
  constructor
  · intro h
    obtain ⟨_, ⟨name, hname, hfree, value, condition, sources, hprepared, rfl⟩, _, hranked,
      rfl⟩ := h
    rw [ranked_sort_table _ hname hfree.2] at hranked
    rw [← Except.ok.inj hranked]
    exact ⟨name, hname, hfree, value, condition, sources, hprepared, rfl⟩
  · intro h
    obtain ⟨name, hname, hfree, value, condition, sources, hprepared, rfl⟩ := h
    exact ⟨_, ⟨name, hname, hfree, value, condition, sources, hprepared, rfl⟩, _,
      ranked_sort_table _ hname hfree.2, rfl⟩

end CardBrowser.Search.Plan

/-! ## Lists of two cards -/

namespace CardBrowser

open Database Search Sql

/-- A plain query that finds two cards lists them in the order of their rows. -/
theorem card_ids_pair {database : Database} {query : CardQuery} (terms : List OrderTerm)
    (row other : List Sql.Value)
    (hterms : (orderTerms? query.text query.order).toOption = some terms)
    (hrows : (database.runSelection query.text query.selection
      ((terms ++ [OrderTerm.mk cardId false]).map OrderTerm.expr)).toOption = some [row, other]) :
    database.cardIds query =
      .ok ((if keyOrder (terms ++ [OrderTerm.mk cardId false]) row other != .gt
        then [row, other] else [other, row]).map fun row => wholeNumber (row.getLastD .null)) := by
  have hsort : ∀ terms, sortRows terms [row, other] =
      if keyOrder terms row other != .gt then [row, other] else [other, row] := by
    intro terms
    unfold sortRows
    simp [List.mergeSort, List.MergeSort.Internal.splitInTwo, List.merge]
  unfold cardIds
  cases hread : orderTerms? query.text query.order with
  | error fault => simp [hread, Except.toOption] at hterms
  | ok read =>
      obtain rfl : read = terms := by simpa [hread, Except.toOption] using hterms
      cases hrun : database.runSelection query.text query.selection
          ((read ++ [OrderTerm.mk cardId false]).map OrderTerm.expr) with
      | error fault =>
          rw [hrun] at hrows
          cases hrows
      | ok rows =>
          rw [hrun] at hrows
          obtain rfl : rows = [row, other] := Option.some.inj hrows
          show (database.runSelection query.text query.selection
            ((read ++ [OrderTerm.mk cardId false]).map OrderTerm.expr) >>= _) = _
          rw [hrun, Except.ok_bind, hsort]
          rfl

/-- A connection lists the cards that its database lists. -/
theorem card_ids_connection {connection : Connection} {query : CardQuery} {ids : List Int}
    (h : connection.database.cardIds query = .ok ids) :
    Store.cardIds query connection = (.ok ids, connection) := by
  show (((connection.database.cardIds query).mapError Fault.storeError), connection) = _
  rw [h]
  rfl

end CardBrowser
