import CardBrowser.Card
import CardBrowser.Database.Fault
import CardBrowser.Database.Table

/-!
# Card databases

A database holds the tables of note types, notes, cards and the schema version, each of which may
be missing, and temporary tables, which last as long as the connection. A name means a temporary
table before a lasting one. The database may watch over foreign keys: every card that is added
needs its note, and a note takes its cards with it.
-/

namespace CardBrowser

open CardBrowser.Sql

instance : Identified NoteType := ⟨NoteType.id⟩
instance : Identified StoredNote := ⟨StoredNote.id⟩
instance : Identified Card := ⟨Card.id⟩

/-- The columns of a card. -/
def Card.row (card : Card) : Row :=
  [("id", .integer card.id), ("nid", .integer card.noteId), ("did", .integer card.deckId),
   ("ord", .integer card.ordinal), ("mod", .integer card.modified), ("type", .integer card.type),
   ("queue", .integer card.queue), ("due", .integer card.due), ("ivl", .integer card.interval),
   ("factor", .integer card.factor), ("reps", .integer card.reps),
   ("lapses", .integer card.lapses)]

/-- The columns of a note. -/
def StoredNote.row (note : StoredNote) : Row :=
  [("id", .integer note.id), ("mid", .integer note.typeId), ("mod", .integer note.modified),
   ("tags", .text note.tags), ("flds", .text note.fields), ("sfld", .text note.sortField)]

/-- The columns of a note type. -/
def NoteType.row (noteType : NoteType) : Row :=
  [("id", .integer noteType.id), ("name", .text noteType.name), ("flds", .text noteType.fields)]

/-- A database. -/
structure Database where
  noteTypes : Option (Database.Table NoteType) := none
  notes : Option (Database.Table StoredNote) := none
  cards : Option (Database.Table Card) := none
  /-- The rows of the schema version table. -/
  versions : Option (List Int) := none
  /-- The lasting tables that the program knows nothing about. -/
  others : List (String × Source) := []
  /-- The temporary tables. -/
  temporary : List (String × Source) := []
  /-- Whether foreign keys are watched. -/
  foreignKeys : Bool := true

namespace Database

/-- The table of that name in a list. -/
def named? (tables : List (String × Source)) (name : String) : Option Source :=
  (tables.find? fun table => sameName table.1 name).map Prod.snd

/-- A list of tables without the one of that name. -/
def unnamed (tables : List (String × Source)) (name : String) : List (String × Source) :=
  tables.filter fun table => !sameName table.1 name

/-- The table of cards as statements see it. -/
def cardSource (cards : Table Card) : Source where
  columns := (default : Card).row.map Prod.fst
  rows := cards.rows.map Card.row

/-- The table of notes as statements see it. -/
def noteSource (notes : Table StoredNote) : Source where
  columns := (default : StoredNote).row.map Prod.fst
  rows := notes.rows.map StoredNote.row

/-- The table of note types as statements see it. -/
def noteTypeSource (noteTypes : Table NoteType) : Source where
  columns := (default : NoteType).row.map Prod.fst
  rows := noteTypes.rows.map NoteType.row

/-- The table of the schema version as statements see it. -/
def versionSource (versions : List Int) : Source where
  columns := ["version"]
  rows := versions.map fun version => [("version", .integer version)]

/-- The lasting table of a name. -/
def lasting? (database : Database) (name : String) : Option Source :=
  if sameName name "cards" then database.cards.map cardSource
  else if sameName name "notes" then database.notes.map noteSource
  else if sameName name "models" then database.noteTypes.map noteTypeSource
  else if sameName name "schema_version" then database.versions.map versionSource
  else named? database.others name

/-- The tables that a statement may read. -/
def tables (database : Database) : Tables := fun name =>
  named? database.temporary name <|> database.lasting? name

end Database

end CardBrowser
