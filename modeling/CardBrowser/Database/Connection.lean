import CardBrowser.Database.Count
import CardBrowser.Database.Store

/-!
# Connections to databases

A connection owns a database that lives in memory or in a file. Connecting anew to a file finds
what was stored there; temporary tables are gone, and foreign keys are watched again whatever the
configuration says. A new connection to memory finds an empty database. As long as it lasts, a
connection calls the table of a setting by the name under which it was looked up first, and keeps
the statement that looks up the notes of cards.
-/

namespace CardBrowser.Database

open CardBrowser.Json CardBrowser.Sql

/-- How a connection is set up. -/
structure ConnectionConfig where
  /-- How long to wait for a locked database, in milliseconds. -/
  busyTimeout : Nat := 5000
  writeAheadLog : Bool := true
  foreignKeys : Bool := true
deriving DecidableEq, Repr

/-- The configuration that a JSON text describes; members that are left out have their defaults. -/
def ConnectionConfig.ofText? (text : String) : Option ConnectionConfig := do
  let node ← Node.ofText? text
  match ← node.record? ["busy_timeout_ms", "enable_wal", "enable_foreign_keys"] with
  | [busyTimeout, writeAheadLog, foreignKeys] =>
    return {
      busyTimeout := ← Node.orDefault (Node.natUpTo? greatestWord) 5000 busyTimeout
      writeAheadLog := ← Node.orDefault Node.bool? true writeAheadLog
      foreignKeys := ← Node.orDefault Node.bool? true foreignKeys }
  | _ => none

/-- Where a database lives. A path that is a directory or leads through a missing one cannot be
opened. -/
inductive Location where
  | memory
  | file
  | unopenable (path : String)
deriving DecidableEq, Repr

/-- A database and how it is connected to. -/
structure Connection where
  location : Location
  config : ConnectionConfig
  database : Database
  /-- The tables of settings that were looked up, as they were written first. -/
  settingTables : List String := []
  /-- Whether the statement that looks up the notes of cards is at hand. -/
  hasNoteStatement : Bool := false

namespace Connection

/-- Connects to a location where `stored` is what a file holds. -/
def open? (location : Location) (config : ConnectionConfig) (stored : Database) :
    Except StoreError Connection :=
  match location with
  | .memory => .ok { location, config, database := {} }
  | .file =>
    .ok { location, config, database := { stored with temporary := [], foreignKeys := true } }
  | .unopenable path =>
    .error (.connectionFailed Fault.backend s!"unable to open database file: {path}")

/-- Closes a connection and connects to its location anew. -/
def reopen (connection : Connection) : Except StoreError Connection :=
  open? connection.location connection.config connection.database

/-- Whether the database lives in memory. -/
def isMemory (connection : Connection) : Bool :=
  connection.location == .memory

/-- The name of the way in which changes are written. -/
def journalMode (connection : Connection) : String :=
  if connection.isMemory then "memory"
  else if connection.config.writeAheadLog then "wal"
  else "delete"

/-- A call on the database of a connection. -/
def onDatabase {α : Type} (access : Access Database α) : Access Connection α := fun connection =>
  let (answer, database) := access connection.database
  (answer, { connection with database })

/-- A connection that has looked up tables of settings. -/
def lookUp (connection : Connection) (tables : List String) : Connection :=
  { connection with
    settingTables := tables.foldl
      (fun known table => if known.any (sameName table) then known else known ++ [table])
      connection.settingTables }

/-- A fault with a table of a setting called as it was written first. -/
def respell (connection : Connection) : Fault → Fault
  | .permanentTable name =>
    .permanentTable ((connection.settingTables.find? (sameName name)).getD name)
  | fault => fault

/-- Runs a drop statement. -/
def dropTable (connection : Connection) (sql : String) : Except Fault Unit × Connection :=
  let connection := connection.lookUp (connection.database.settingsDropped sql)
  match connection.database.dropTable sql with
  | .ok database => (.ok (), { connection with database })
  | .error fault => (.error (connection.respell fault), connection)

/-- Runs a counting statement. -/
def countRows (connection : Connection) (sql : String) : Except Fault Nat × Connection :=
  (connection.database.countRows sql,
   connection.lookUp (connection.database.settingsCounted sql))

/-- Looks up the notes of cards. The statement for that needs the table of cards when it is made and
for every card; once it is at hand, to look up no card needs no table. -/
def noteIds (connection : Connection) (cards : List Int) :
    Except Fault (List (Int × Int)) × Connection :=
  if connection.hasNoteStatement && cards.isEmpty then (.ok [], connection)
  else
    match connection.database.noteIds cards with
    | .ok found => (.ok found, { connection with hasNoteStatement := true })
    | .error fault => (.error fault, connection)

instance : Store Connection where
  execute
    | .dropTable table, connection =>
      let (result, connection) := connection.dropTable (Search.Command.dropTable table).text
      (result.mapError Fault.storeError, connection)
    | command, connection => onDatabase (Store.execute command) connection
  cardIds query := onDatabase (Store.cardIds query)
  rankedIds query := onDatabase (Store.rankedIds query)
  noteIds cards connection :=
    let (result, connection) := connection.noteIds cards
    (result.mapError Fault.storeError, connection)
  card id := onDatabase (Store.card id)
  note id := onDatabase (Store.note id)
  fields typeId := onDatabase (Store.fields typeId)

end Connection

end CardBrowser.Database
