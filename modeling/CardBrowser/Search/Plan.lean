import CardBrowser.Column.SortKey
import CardBrowser.Store.Basic

/-!
# Search plans

A search that sorts by a custom column runs in one of three ways. Without a sort expression it
lists the cards as they come. Otherwise it sorts by the expression in the query itself, or, where
the values are costly, it first puts them into a temporary table and lists that. The table is
removed at the end whether or not the search succeeds. Notes are joined only where the predicate
or the expression mentions their alias.
-/

namespace CardBrowser.Search

open CardBrowser.Sql

/-- How a search runs. -/
inductive Strategy where
  | direct
  | inline
  | materialized
deriving DecidableEq, Repr

/-- The name of a strategy. -/
def Strategy.name : Strategy → String
  | direct => "direct"
  | inline => "inline"
  | materialized => "materialized"

/-- The query that gives the result of a search. -/
inductive FinalQuery where
  | plain (query : CardQuery)
  | ranked (query : RankedQuery)
deriving DecidableEq, Repr

namespace FinalQuery

/-- The text of the query. -/
def text : FinalQuery → String
  | plain query => query.text
  | ranked query => query.text

/-- The values of the placeholders. -/
def parameters : FinalQuery → List Value
  | plain query => query.selection.parameters
  | ranked query => query.parameters

end FinalQuery

/-- The statements of a search: those before the query, the query, and the one after it. -/
structure Plan where
  prepare : List Command
  query : FinalQuery
  cleanup : Option Command
deriving DecidableEq, Repr

/-- What a browser decides about its plans: the name of the sort table, and a strategy that every
search with a sort expression must follow. -/
structure PlanOptions where
  sortTable : String
  forced : Option Strategy := none
deriving DecidableEq, Repr

namespace Plan

/-- The strategy that a plan follows. -/
def strategy (plan : Plan) : Strategy :=
  match plan.query with
  | .plain _ => .direct
  | .ranked (.cards ..) => .inline
  | .ranked (.sortTable _) => .materialized

/-- Lists the cards as they come. -/
def direct (predicate : Predicate) : Plan where
  prepare := []
  query := .plain ⟨Selection.ofPredicate predicate (predicate.mentions "n"), none⟩
  cleanup := none

/-- The cards of a search by a sort expression. -/
def selection (predicate : Predicate) (expression : String) : Selection :=
  Selection.ofPredicate predicate
    (predicate.mentions "n" || Text.mentionsAlias expression "n")

/-- Sorts by the expression in the query. -/
def inline (predicate : Predicate) (expression : String) : Plan where
  prepare := []
  query := .ranked (.cards (selection predicate expression) (.verbatim expression))
  cleanup := none

/-- Puts the sort values into a table first. -/
def materialized (table : String) (predicate : Predicate) (expression : String) : Plan where
  prepare :=
    [.dropTable table,
     .createTable table (.verbatim expression) (selection predicate expression)]
  query := .ranked (.sortTable table)
  cleanup := some (.dropTable table)

/-- The strategy for a sort key that has an expression. -/
def chooseStrategy (options : PlanOptions) (key : SortKey) : Strategy :=
  match options.forced with
  | some forced => forced
  | none => if key.needsTable then .materialized else .inline

/-- The plan of a search by a sort key. -/
def ofKey (options : PlanOptions) (predicate : Predicate) (key : SortKey) : Plan :=
  match key.expression with
  | none => direct predicate
  | some expression =>
    match chooseStrategy options key with
    | .direct => direct predicate
    | .inline => inline predicate expression
    | .materialized => materialized options.sortTable predicate expression

variable {σ : Type} [Store σ]

/-- Runs commands until one fails. -/
def runCommands (stage : Stage) : List Command → Access σ Unit
  | [], store => (.ok (), store)
  | command :: rest, store =>
    match Store.execute command store with
    | (.ok _, store) => runCommands stage rest store
    | (.error error, store) => (.error (error.atStage stage), store)

/-- Runs the query and puts its rows into the given direction. -/
def runQuery (query : FinalQuery) (direction : Direction) : Access σ (List Int) := fun store =>
  match query with
  | .plain query =>
    let (answer, store) := Store.cardIds query store
    ((answer.mapError (·.atStage .finalQuery)).map (reversed · direction), store)
  | .ranked query =>
    let (answer, store) := Store.rankedIds query store
    ((answer.mapError (·.atStage .finalQuery)).map (directed · direction), store)

/-- Runs the commands and then the query. -/
def run (plan : Plan) (direction : Direction) : Access σ (List Int) := fun store =>
  match runCommands .projection plan.prepare store with
  | (.ok _, store) => runQuery plan.query direction store
  | (.error error, store) => (.error error, store)

/-- Cleans up after a search, whose result does not depend on that. -/
def cleanUp (plan : Plan) (store : σ) : σ :=
  match plan.cleanup with
  | none => store
  | some command => (Store.execute command store).2

/-- Runs a plan and cleans up. A search that fails finds nothing. -/
def execute (plan : Plan) (direction : Direction) (store : σ) : List Int × σ :=
  let (answer, store) := plan.run direction store
  (answer.toOption.getD [], plan.cleanUp store)

end Plan

/-- The plan of a search by a column; none if the column has no sort key. Asking the column
changes the registry. -/
def planFor (registry : Registry) (options : PlanOptions) (predicate : Predicate)
    (sortType : String) : Option Plan × Registry :=
  let (key, registry) := registry.sortKey sortType
  (key.map (Plan.ofKey options predicate), registry)

end CardBrowser.Search
