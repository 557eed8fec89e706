import CardBrowser.Database.Computed
import CardBrowser.Database.Query
import CardBrowser.Sql.Count

/-!
# Counting rows

The tables of a counting statement are looked up in the order in which they are written, and the
first that cannot be used is the fault. Only then are names resolved and rows counted.
-/

namespace CardBrowser.Database

open CardBrowser.Sql

/-- The name that a computed table is asked about: the text that it is given first. -/
def askedName (arguments : Option (List Expr)) : Option String := do
  ((← (← arguments).head?).eval (fun _ => none) [] []).asText?

/-- Whether a table has the index that is asked for. -/
def checkIndex (database : Database) (item : FromItem) : Except Fault Unit :=
  match item.index with
  | none => .ok ()
  | some index =>
    if (database.indicesOf item.table.name).any (sameName index) then .ok ()
    else .error (.noSuchIndex index)

/-- A table of a `FROM` clause as the statement sees it. Only computed tables take arguments. -/
def relationSource (database : Database) (item : FromItem) : Except Fault Source :=
  let kept (source : Source) : Except Fault Source :=
    if item.arguments.isSome then .error (.notComputed item.table.name) else .ok source
  match database.relation? item.table with
  | some (.stored _ source) => kept source
  | some (.list part) => kept (database.listSource part)
  | some (.computed name) => .ok (database.computedSource name (askedName item.arguments))
  | some (.unavailable name) => .error (.needsCreation name)
  | none => .error (.noSuchTable item.table.text)

/-- A table of a `FROM` clause, with the index that is asked for, as the statement sees it. -/
def itemSource (database : Database) (item : FromItem) : Except Fault Source := do
  let source ← database.relationSource item
  database.checkIndex item
  return source

/-- The tables of a `FROM` clause as the statement sees them. -/
def itemSources (database : Database) (items : List FromItem) : Except Fault From :=
  items.mapM fun item => (database.itemSource item).map (item.name, ·)

/-- Whether a table cannot list its rows. -/
def isUnlisted (database : Database) (item : FromItem) : Bool :=
  match database.relation? item.table with
  | some (.computed name) => name == "fts3tokenize"
  | _ => false

/-- The choices of rows after one more table has been joined to them. A row without a partner is put
beside a row of nothing but NULL if the join keeps it. -/
def joinRows (tables : Tables) (earlier : From) (choices : List Frame) (item : FromItem)
    (source : Source) : List Frame :=
  let extended (choice : Frame) (row : Row) : Frame := choice ++ [(item.name, row)]
  let fits (frame : Frame) : Bool := item.conditions.all (holds tables [] frame)
  let found := choices.flatMap fun choice =>
    let fitting := (source.rows.map (extended choice)).filter fits
    if fitting.isEmpty && item.join.keepsEarlier then [extended choice source.sample] else fitting
  let isAlone (row : Row) : Bool := !choices.any fun choice => fits (extended choice row)
  let kept := if item.join.keepsNext then source.rows.filter isAlone else []
  found ++ kept.map (extended (sampleFrame earlier))

/-- The choices of rows of joined tables, in the order in which the tables are written. -/
def joinedFrames (tables : Tables) (items : List FromItem) (sources : From) : List Frame :=
  let (_, choices) := (items.zip sources).foldl
    (fun (earlier, choices) (item, name, source) =>
      (earlier ++ [(name, source)], joinRows tables earlier choices item source))
    (([], [[]]) : From × List Frame)
  choices

/-- Runs a counting statement. -/
def countRows (database : Database) (sql : String) : Except Fault Nat := do
  let count ← (Count.ofText sql).mapError (Fault.misread · sql)
  let items := count.items
  let exprs := items.flatMap fun item => item.arguments.getD [] ++ item.conditions
  let query : Query := ⟨exprs ++ count.order.map (·.expr), count.condition, []⟩
  let (query, sources) ← database.prepare sql query (database.itemSources items)
  if items.any database.isUnlisted then throw .unlisted
  if !count.answers then throw .noRow
  return (joinedFrames database.tables items sources).countP fun frame =>
    holds database.tables [] frame query.condition

/-- The tables of settings that a counting statement looks up, as it writes them. They are looked
up even if something stands after the statement that does not belong there. -/
def settingsCounted (database : Database) (sql : String) : List String :=
  match readCount (Token.ofText sql) with
  | .error _ => []
  | .ok (count, rest) =>
    if continues rest then [] else
    let isFound (item : FromItem) : Bool := (database.itemSource item).toOption.isSome
    let (found, others) := count.items.span isFound
    let tables := (found ++ others.take 1).map (·.table)
    (tables.filter database.meansSetting).map (·.name)

/-- The tables of settings that a drop statement looks up, as it writes them, whatever stands after
the statement. -/
def settingsDropped (database : Database) (sql : String) : List String :=
  match readDrop (Token.ofText sql) with
  | .error _ => []
  | .ok (statement, _) =>
    if database.meansSetting statement.table then [statement.table.name] else []

end CardBrowser.Database
