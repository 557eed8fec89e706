import CardBrowser.Database.Basic
import CardBrowser.FieldList

/-!
# The contents of a database

The operations that create the tables of the schema, store and remove rows, and look rows up. An operation that
fails leaves the database as it was, since it does not give a new one.
-/

namespace CardBrowser.Database

open CardBrowser.Sql

/-- The contents of a table that is not missing. -/
def require {α : Type} (name : String) : Option α → Except Fault α
  | some contents => .ok contents
  | none => .error (.noSuchTable name)

/-- The row that has to be there. -/
def present {α : Type} : Option α → Except Fault α
  | some row => .ok row
  | none => .error .noRow

/-! ## The schema -/

/-- A database with every table of the schema, those that were missing being empty. -/
def withTables (database : Database) : Database :=
  { database with
    noteTypes := some (database.noteTypes.getD {})
    notes := some (database.notes.getD {})
    cards := some (database.cards.getD {}) }

/-- Whether a schema version can be read: it must fit in 32 bits. -/
def isReadableVersion (version : Int) : Bool :=
  -2147483648 ≤ version && version ≤ 2147483647

/-- Creates the tables unless the schema version says that they are there. A database of a newer
version is refused. -/
def createSchema (database : Database) : Except Fault Database :=
  let versions := database.versions.getD []
  let database := { database with versions := some versions }
  let version := versions.headD 0
  if !isReadableVersion version then .error (.versionOutOfRange version)
  else if version = 0 then .ok { database.withTables with versions := some [supportedVersion] }
  else if supportedVersion < version then .error (.newerVersion version)
  else .ok database

/-- Changes the schema version on record and tells how many rows hold it. -/
def setVersion (database : Database) (version : Int) : Except Fault (Nat × Database) := do
  let versions ← require "schema_version" database.versions
  return (versions.length, { database with versions := some (versions.map fun _ => version) })

/-! ## Note types -/

/-- Stores a note type with the text of its fields. -/
def putNoteType (database : Database) (noteType : NoteType) : Except Fault Database := do
  let noteTypes ← require "models" database.noteTypes
  return { database with noteTypes := some (noteTypes.insert noteType) }

/-- Adds a note type, in place of the one that has its id. -/
def addNoteType (database : Database) (id : Int) (name : String) (fields : List Field) :
    Except Fault Database :=
  database.putNoteType ⟨id, name, fieldListText fields⟩

/-- A note type as it is stored. -/
def noteType? (database : Database) (id : Int) : Except Fault (Option NoteType) :=
  (require "models" database.noteTypes).map (·.find? id)

/-- The fields of a note type. -/
def fields? (database : Database) (id : Int) : Except Fault (Option (List Field)) := do
  match ← database.noteType? id with
  | none => return none
  | some noteType =>
    match fieldList? noteType.fields with
    | some fields => return some fields
    | none => throw .malformedFields

/-! ## Notes -/

/-- The cards without those of a note, if foreign keys are watched. -/
def cardsWithout (database : Database) (note : Int) : Option (Table Card) :=
  if database.foreignKeys then database.cards.map (·.filter (·.noteId != note))
  else database.cards

/-- Adds a note. A note that has its id already is removed first, and takes its cards with it. -/
def addNote (database : Database) (note : Note) : Except Fault Database := do
  let notes ← require "notes" database.notes
  let cards := if notes.contains note.id then database.cardsWithout note.id else database.cards
  return { database with notes := some (notes.insert note.stored), cards }

/-- A note as it is stored. -/
def storedNote? (database : Database) (id : Int) : Except Fault (Option StoredNote) :=
  (require "notes" database.notes).map (·.find? id)

/-- The note of an id. -/
def note? (database : Database) (id : Int) : Except Fault (Option Note) :=
  (database.storedNote? id).map (·.map StoredNote.note)

/-- Changes the stored tags of a note and tells how many notes have changed. -/
def setTags (database : Database) (id : Int) (tags : String) :
    Except Fault (Nat × Database) := do
  let notes ← require "notes" database.notes
  match notes.find? id with
  | none => return (0, database)
  | some note => return (1, { database with notes := some (notes.insert { note with tags }) })

/-- Removes a note and its cards and tells how many notes were removed. -/
def deleteNote (database : Database) (id : Int) : Except Fault (Nat × Database) := do
  let notes ← require "notes" database.notes
  if notes.contains id then
    return (1, { database with notes := some (notes.erase id), cards := database.cardsWithout id })
  else return (0, database)

/-! ## Cards -/

/-- The name under which a missing table of notes is reported when a foreign key needs it. -/
def parentTable : String := "main.notes"

/-- The notes that a foreign key may refer to; any note will do if foreign keys are not watched. -/
def acceptsNote (database : Database) : Except Fault (Int → Bool) :=
  if database.foreignKeys then
    (require parentTable database.notes).map fun notes note => notes.contains note
  else .ok fun _ => true

/-- Adds a card, in place of the one that has its id. If foreign keys are watched, its note has to
be there. -/
def addCard (database : Database) (card : Card) : Except Fault Database := do
  let cards ← require "cards" database.cards
  let accepts ← database.acceptsNote
  if accepts card.noteId then return { database with cards := some (cards.insert card) }
  else throw .foreignKey

/-- The card of an id. -/
def card? (database : Database) (id : Int) : Except Fault (Option Card) :=
  (require "cards" database.cards).map (·.find? id)

/-- Those of the given cards that exist with their notes, in ascending order. -/
def noteIds (database : Database) (ids : List Int) : Except Fault (List (Int × Int)) := do
  let cards ← require "cards" database.cards
  let found := cards.rows.filter fun card => ids.contains card.id
  return found.map fun card => (card.id, card.noteId)

/-- The ids of all cards in ascending order. -/
def allCards (database : Database) : Except Fault (List Int) :=
  (require "cards" database.cards).map fun cards => cards.rows.map (·.id)

/-- Changes when a card is due and tells how many cards have changed. -/
def setDue (database : Database) (id due : Int) : Except Fault (Nat × Database) := do
  let cards ← require "cards" database.cards
  match cards.find? id with
  | none => return (0, database)
  | some card => return (1, { database with cards := some (cards.insert { card with due }) })

/-- Removes a card and tells how many cards were removed. -/
def deleteCard (database : Database) (id : Int) : Except Fault (Nat × Database) := do
  let cards ← require "cards" database.cards
  let _ ← database.acceptsNote
  return (if cards.contains id then 1 else 0, { database with cards := some (cards.erase id) })

end CardBrowser.Database
