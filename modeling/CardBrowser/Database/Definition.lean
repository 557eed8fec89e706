import CardBrowser.Database.Catalog
import CardBrowser.Sql.Definition

/-!
# Creating and dropping tables

A create statement is checked before its columns are read. Neither the lists of tables nor the
tables whose rows are computed can be dropped.
-/

namespace CardBrowser.Database

open CardBrowser.Sql

/-! ## Creation -/

/-- Checks that the name of a new table does not belong to the database itself. -/
def checkFreeName (name : String) : Except Fault Unit :=
  if isInternal name then .error (.reservedName name) else .ok ()

/-- Checks that a part has no table of that name, and that the name is free to be used. -/
def checkNewName (database : Database) (part : Part) (name sql : String) : Except Fault Unit := do
  checkFreeName name
  if (database.stored? part name).isSome then throw (.tableExists name sql)
  if database.hasIndex part name then throw (.indexExists name)

/-- The part in which a create statement puts its table. -/
def newPart (statement : Create) (sql : String) : Except Fault Part :=
  match statement.table.part with
  | none => .ok (if statement.isTemporary then .temporary else .lasting)
  | some name =>
    match Part.ofName? name with
    | none => .error (.noSuchPart name sql)
    | some part =>
      if statement.isTemporary && part != .temporary then .error .qualifiedTemporary else .ok part

/-- Checks that no two columns have one name. -/
def checkColumns : List String → Except Fault Unit
  | [] => .ok ()
  | column :: columns =>
    match columns.find? (sameName column) with
    | some other => .error (.duplicateColumn other)
    | none => checkColumns columns

/-- Adds an empty table to a part. -/
def withTable (database : Database) (part : Part) (name : String) (columns : List String) :
    Database :=
  let table := (name, Source.mk columns [])
  match part with
  | .temporary => { database with temporary := database.temporary ++ [table] }
  | .lasting => { database with others := database.others ++ [table] }

/-- Runs a create statement. The program knows nothing about the new table but its name and
columns. -/
def createTable (database : Database) (sql : String) : Except Fault Database := do
  let (statement, rest) ← (readCreate (Token.ofText sql)).mapError (Fault.misread · sql)
  let name := statement.table.name
  let part ← newPart statement sql
  checkFreeName name
  let isSpared := statement.ifNotExists && (database.stored? part name).isSome
  if !isSpared then database.checkNewName part name sql
  let (columns, rest) ← (readColumns rest).mapError (Fault.misread · sql)
  if !isSpared then checkColumns columns
  (readEnd rest).mapError (Fault.misread · sql)
  return if isSpared then database else database.withTable part name columns

/-! ## Removal -/

/-- Removes a lasting table. The table of notes takes the cards of its notes with it. -/
def dropLasting (database : Database) (name : String) : Database :=
  if sameName name "cards" then { database with cards := none }
  else if sameName name "notes" then
    let orphan (card : Card) : Bool :=
      !(database.notes.map (·.contains card.noteId)).getD false
    let cards := if database.foreignKeys then database.cards.map (·.filter orphan)
      else database.cards
    { database with notes := none, cards }
  else if sameName name "models" then { database with noteTypes := none }
  else if sameName name "schema_version" then { database with versions := none }
  else { database with others := unnamed database.others name }

/-- Runs a drop statement. -/
def dropTable (database : Database) (sql : String) : Except Fault Database := do
  let statement ← (Drop.ofText sql).mapError (Fault.misread · sql)
  let table := statement.table
  let missing (fault : Fault) : Except Fault Database :=
    if statement.ifExists then .ok database else .error fault
  match database.relation? table with
  | some (.stored .lasting _) => return database.dropLasting table.name
  | some (.stored .temporary _) =>
    return { database with temporary := unnamed database.temporary table.name }
  | some (.list part) => throw (.permanentTable part.listName)
  | some (.computed name) => throw (.permanentTable name)
  | some (.unavailable name) => missing (.needsCreation name)
  | none => missing (.noSuchTable table.text)

end CardBrowser.Database
