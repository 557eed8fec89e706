import CardBrowser.Search.Ordering
import CardBrowser.Search.Predicate

/-!
# The statements of a search

A search puts four kinds of statement to a store: a plain list of card ids, a list of card ids with
blank flags in the order of a sort value, and the creation and removal of a temporary table that
holds the sort values. Every statement has one text, which is what a store is asked to run.
-/

namespace CardBrowser.Search

open CardBrowser.Sql

/-- Which cards a statement is about, and whether their notes are joined to them. The condition is
a single operand of `AND`. -/
structure Selection where
  joined : Bool
  condition : Expr
  parameters : List Value
deriving DecidableEq, Repr

namespace Selection

/-- The cards that satisfy a predicate. -/
def ofPredicate (predicate : Predicate) (joined : Bool) : Selection :=
  ⟨joined, predicate.guarded, predicate.parameters⟩

/-- The tables that are read, with their aliases. -/
def sources (selection : Selection) : List (String × String) :=
  ("cards", "c") :: if selection.joined then [("notes", "n")] else []

/-- The condition on the rows of these tables: a joined note is that of its card. -/
def filter (selection : Selection) : Expr :=
  if selection.joined then
    .binary .and (.binary .equal (.column (some "c") "nid") (.column (some "n") "id"))
      selection.condition
  else selection.condition

/-- The clauses `FROM` and `WHERE`. -/
def text (selection : Selection) : String :=
  let tables := selection.sources.map fun (table, shortName) => table ++ " " ++ shortName
  "FROM " ++ ", ".intercalate tables ++ " WHERE " ++ selection.filter.text

end Selection

/-- A plain list of card ids, put in order by the text of an order clause or left as it comes. -/
structure CardQuery where
  selection : Selection
  order : Option String
deriving DecidableEq, Repr

/-- The text of a plain query. -/
def CardQuery.text (query : CardQuery) : String :=
  "SELECT c.id " ++ query.selection.text ++
    (match query.order with
    | some order => " ORDER BY " ++ order
    | none => "")

/-- The column of a sort table that holds the sort values. -/
def sortColumn : Expr := .column none "srt"

/-- A list of card ids with blank flags, ascending by a sort value and then by id. -/
inductive RankedQuery where
  /-- Computes the sort value of every card that it lists. -/
  | cards (selection : Selection) (value : Expr)
  /-- Lists a sort table. -/
  | sortTable (table : String)
deriving DecidableEq, Repr

namespace RankedQuery

/-- The text of a ranked query. -/
def text : RankedQuery → String
  | cards selection value =>
    "SELECT c.id, " ++ (blankFlag value).text ++ " " ++ selection.text ++ " ORDER BY " ++
      orderText value ++ ", c.id"
  | sortTable table =>
    "SELECT id, " ++ (blankFlag sortColumn).text ++ " FROM temp." ++ table ++ " ORDER BY " ++
      orderText sortColumn ++ ", id"

/-- The values of the placeholders. -/
def parameters : RankedQuery → List Value
  | cards selection _ => selection.parameters
  | sortTable _ => []

end RankedQuery

/-- A statement that changes the sort table. -/
inductive Command where
  /-- Removes the temporary table if there is one. -/
  | dropTable (table : String)
  /-- Creates the temporary table of card ids and sort values. -/
  | createTable (table : String) (value : Expr) (selection : Selection)
deriving DecidableEq, Repr

namespace Command

/-- The text of a command. -/
def text : Command → String
  | dropTable table => "DROP TABLE IF EXISTS temp." ++ table
  | createTable table value selection =>
    "CREATE TEMP TABLE " ++ table ++ " AS SELECT c.id AS id, (" ++ value.text ++ ") AS srt " ++
      selection.text

/-- The values of the placeholders. -/
def parameters : Command → List Value
  | dropTable _ => []
  | createTable _ _ selection => selection.parameters

end Command

end CardBrowser.Search
