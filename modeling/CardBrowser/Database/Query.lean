import CardBrowser.Database.Definition
import CardBrowser.Database.Frames
import CardBrowser.Search.Statement

/-!
# Running the statements of a search

A statement is read, its expressions are measured, its tables are looked up, its names are
resolved, its values are counted, and only then are rows looked at. Rows that a plain query leaves
together come in ascending order of their card ids.
-/

namespace CardBrowser.Database

open CardBrowser.Sql CardBrowser.Search

/-- A statement that has been read: what is wanted of each row, and which rows. -/
structure Query where
  results : List Expr
  condition : Expr
  parameters : List Value

namespace Query

/-- The expressions of a query. -/
def exprs (query : Query) : List Expr :=
  query.results ++ [query.condition]

/-- Reads the verbatim text in a query. -/
def expand (query : Query) : Except Rejection Query := do
  return { query with results := ← query.results.mapM Expr.expand,
                      condition := ← query.condition.expand }

/-- Checks that no expression has too many levels. -/
def checkHeight (query : Query) : Except Fault Unit :=
  if query.exprs.any fun expr => greatestHeight < expr.height then .error .tooHigh else .ok ()

/-- Resolves the names of a query. -/
def check (query : Query) (tables : Tables) (sources : From) : Except Rejection Unit :=
  query.exprs.forM fun expr => expr.check tables [sampleFrame sources]

/-- How many values a query needs. -/
def placeholders (query : Query) : Nat :=
  query.exprs.foldl (fun most expr => max most expr.placeholders) 0

/-- Checks that there are as many values as needed. Values are counted only until there is one too
many. -/
def checkParameters (query : Query) : Except Fault Unit :=
  let given := query.parameters.length
  if given = query.placeholders then .ok ()
  else .error (.parameterCount (min given (query.placeholders + 1)) query.placeholders)

/-- The results for every row that satisfies the condition. -/
def rows (query : Query) (tables : Tables) (sources : From) :
    Except Fault (List (List Value)) := do
  if meetsLongPattern tables query.parameters sources query.condition then throw .longPattern
  let found := (frames sources).filter fun frame =>
    holds tables query.parameters frame query.condition
  return found.map fun frame =>
    query.results.map fun expr => expr.eval tables query.parameters [frame]

end Query

/-- The tables of a list of names and aliases. -/
def sources (database : Database) (names : List (String × String)) : Except Fault From :=
  names.mapM fun (table, shortName) =>
    match database.tables table with
    | some source => .ok (shortName, source)
    | none => .error (.noSuchTable table)

/-- Checks that the tables of nested selects are there. -/
def checkNested (database : Database) (query : Query) : Except Fault Unit :=
  (query.exprs.flatMap Expr.tables).forM fun table =>
    if (database.tables table).isSome then .ok () else .error (.noSuchTable table)

/-- Reads the verbatim text in a query and checks the query on some tables, which are then known to
be there. -/
def prepare (database : Database) (sql : String) (query : Query) (sources : Except Fault From) :
    Except Fault (Query × From) := do
  let query ← query.expand.mapError (Fault.ofRejection sql)
  query.checkHeight
  let sources ← sources
  database.checkNested query
  (query.check database.tables sources).mapError (Fault.ofRejection sql)
  query.checkParameters
  return (query, sources)

/-- Runs a query on some tables. -/
def run (database : Database) (sql : String) (query : Query) (sources : Except Fault From) :
    Except Fault (List (List Value)) := do
  let (query, sources) ← database.prepare sql query sources
  query.rows database.tables sources

/-- Runs a query on the tables of a selection. -/
def runSelection (database : Database) (sql : String) (selection : Selection)
    (results : List Expr) : Except Fault (List (List Value)) :=
  database.run sql ⟨results, selection.filter, selection.parameters⟩
    (database.sources selection.sources)

/-! ## The order of rows -/

/-- The order of two values under a term of an order clause. -/
def termOrder (term : OrderTerm) (a b : Value) : Ordering :=
  let order := Value.order term.expr.collation a b
  if term.descending then order.swap else order

/-- The order of two rows: that of the first term which tells them apart. -/
def keyOrder : List OrderTerm → List Value → List Value → Ordering
  | term :: terms, a :: as, b :: bs => (termOrder term a b).then (keyOrder terms as bs)
  | _, _, _ => .eq

/-- Puts rows in the order of their values, which are compared term by term. -/
def sortRows (terms : List OrderTerm) (rows : List (List Value)) : List (List Value) :=
  rows.mergeSort fun a b => keyOrder terms a b != .gt

/-- The whole number that a value is; the ids of every table are whole numbers. -/
def wholeNumber : Value → Int
  | .integer n => n
  | _ => 0

/-! ## Statements -/

/-- The column of a card's id. -/
def cardId : Expr := .column (some "c") "id"

/-- The terms of an order clause. -/
def orderTerms? (sql : String) : Option String → Except Fault (List OrderTerm)
  | none => .ok []
  | some order =>
    match OrderTerm.ofText? order with
    | some terms => .ok terms
    | none => .error (.rejected (.unreadable order) sql)

/-- The ids that a plain query lists. -/
def cardIds (database : Database) (query : CardQuery) : Except Fault (List Int) := do
  let terms := (← orderTerms? query.text query.order) ++ [⟨cardId, false⟩]
  let rows ← database.runSelection query.text query.selection (terms.map (·.expr))
  return (sortRows terms rows).map fun row => wholeNumber (row.getLastD .null)

/-- The terms by which a ranked query sorts. -/
def rankTerms (value id : Expr) : List OrderTerm :=
  (orderTerms value ++ [id]).map fun expr => ⟨expr, false⟩

/-- The ids and blank flags of the rows of a ranked query, whose results are the values of the order
terms, the last of them the id, and after them the flag. -/
def rankedRows (terms : List OrderTerm) (rows : List (List Value)) : List (Int × Bool) :=
  (sortRows terms rows).map fun row =>
    (wholeNumber (row.getD (terms.length - 1) .null),
     (row.getD terms.length .null).truth? == some true)

/-- The name of a sort table, which statements hold as it is written. -/
def sortTableName (written sql : String) : Except Fault String :=
  (newNameOfText written).mapError (Fault.misread · sql)

/-- The ids that a ranked query lists, with their blank flags. -/
def rankedIds (database : Database) (query : RankedQuery) : Except Fault (List (Int × Bool)) :=
  match query with
  | .cards selection value => do
    let terms := rankTerms value cardId
    let rows ← database.runSelection query.text selection
      (terms.map (·.expr) ++ [blankFlag value])
    return rankedRows terms rows
  | .sortTable table => do
    let name ← sortTableName table query.text
    let terms := rankTerms sortColumn (.column none "id")
    let sources := match named? database.temporary name with
      | some source => .ok [(name, source)]
      | none => .error (.noSuchTable ("temp." ++ name))
    let rows ← database.run query.text
      ⟨terms.map (·.expr) ++ [blankFlag sortColumn], .integer 1, []⟩ sources
    return rankedRows terms rows

/-- The columns of a sort table. -/
def sortTableColumns : List String := ["id", "srt"]

/-- Runs a command. -/
def execute (database : Database) (command : Command) : Except Fault Database :=
  match command with
  | .dropTable _ => database.dropTable command.text
  | .createTable table value selection => do
    let name ← sortTableName table command.text
    database.checkNewName .temporary name command.text
    let rows ← database.runSelection command.text selection [cardId, value]
    return { database with
      temporary := database.temporary ++
        [(name, ⟨sortTableColumns, rows.map sortTableColumns.zip⟩)] }

end CardBrowser.Database
