import CardBrowser.Database.Basic
import CardBrowser.Sql.TableName

/-!
# The catalog of a database

What the table names of statements mean. A database has a lasting and a temporary part. Each part
has a list of its tables and indices, which is a table itself, and there are tables whose rows are
computed.
-/

namespace CardBrowser.Database

open CardBrowser.Sql

/-- The two parts of a database. -/
inductive Part where
  | lasting
  | temporary
deriving DecidableEq, Repr

namespace Part

/-- The part of a name. -/
def ofName? (name : String) : Option Part :=
  if sameName name "main" then some .lasting
  else if sameName name "temp" then some .temporary
  else none

/-- How the list of the tables of a part is called. -/
def listName : Part → String
  | lasting => "sqlite_master"
  | temporary => "sqlite_temp_master"

/-- The names under which the list of the tables of a part is known everywhere. -/
def listNames : Part → List String
  | lasting => ["sqlite_master", "sqlite_schema"]
  | temporary => ["sqlite_temp_master", "sqlite_temp_schema"]

/-- The part whose list of tables has that name. Within the temporary part every such name means
the list of that part, within the lasting part only its own names do. -/
def ofListName? (within : Option Part) (name : String) : Option Part :=
  let isListOf (part : Part) : Bool := part.listNames.any (sameName name)
  match within with
  | some .temporary => if isListOf .temporary || isListOf .lasting then some .temporary else none
  | some .lasting => if isListOf .lasting then some .lasting else none
  | none => [lasting, temporary].find? isListOf

end Part

/-- What a table name means. -/
inductive Relation where
  | stored (part : Part) (source : Source)
  /-- The list of the tables of a part. -/
  | list (part : Part)
  /-- A table whose rows are computed. -/
  | computed (name : String)
  /-- A computed table that cannot do without being created. -/
  | unavailable (name : String)

/-- The table of that name which a part stores. -/
def stored? (database : Database) : Part → String → Option Source
  | .lasting, name => database.lasting? name
  | .temporary, name => named? database.temporary name

/-- The tables of a name that a statement may mean before any computed one. Stored tables come
first, those of the temporary part before those of the lasting one. -/
def kept? (database : Database) (table : TableName) : Option Relation :=
  let part := table.part.bind Part.ofName?
  let parts := if table.part.isNone then [.temporary, .lasting] else part.toList
  let stored := parts.findSome? fun part =>
    (database.stored? part table.name).map (Relation.stored part)
  let list :=
    if table.part.isNone || part.isSome then (Part.ofListName? part table.name).map Relation.list
    else none
  stored <|> list

/-- What a table name means. The computed tables are in every part, also in parts that do not
exist. -/
def relation? (database : Database) (table : TableName) : Option Relation :=
  database.kept? table <|> (computedName? table.name).map Relation.computed <|>
    (unavailableTables.find? (sameName table.name)).map Relation.unavailable

/-- Whether a statement means the table of a setting by a name. -/
def meansSetting (database : Database) (table : TableName) : Bool :=
  (database.kept? table).isNone && settings.any (isSettingTable table.name)

/-! ## The list of a part -/

/-- What the list of a part has an entry for. -/
inductive EntryKind where
  | table
  | index
deriving DecidableEq, Repr

/-- An entry in the list of a part. -/
structure Entry where
  kind : EntryKind := .table
  name : String
  /-- The table that an index is on; a table itself. -/
  table : String := name
deriving DecidableEq, Repr

/-- The entries of a table with its indices, if there is such a table. -/
def entriesOf {α : Type} (name : String) (indices : List String) (contents : Option α) :
    List Entry :=
  contents.toList.flatMap fun _ => ⟨.table, name, name⟩ :: indices.map (⟨.index, ·, name⟩)

/-- The entries in the list of a part. -/
def entries (database : Database) : Part → List Entry
  | .lasting =>
    entriesOf "models" [] database.noteTypes ++ entriesOf "notes" ["ix_notes_mid"] database.notes ++
      entriesOf "cards" ["ix_cards_nid", "ix_cards_sched"] database.cards ++
      entriesOf "schema_version" [] database.versions ++
      database.others.map fun table => ⟨.table, table.1, table.1⟩
  | .temporary => database.temporary.map fun table => ⟨.table, table.1, table.1⟩

/-- Whether a part has an index of that name. -/
def hasIndex (database : Database) (part : Part) (name : String) : Bool :=
  (database.entries part).any fun entry => entry.kind == .index && sameName entry.name name

end CardBrowser.Database
