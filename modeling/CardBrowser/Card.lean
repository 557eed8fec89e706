import CardBrowser.Text.Blank

/-!
# Cards, notes and note types

A note holds field values and owns cards; a card is one row of the browser. The fields of a note
are named by its note type. A note is stored with its field values joined into one text and with
its tags between spaces, so that a tag can be looked for as a word.
-/

namespace CardBrowser

/-- A card and its scheduling state. -/
structure Card where
  id : Int
  noteId : Int
  deckId : Int := 1
  ordinal : Int := 0
  modified : Int := 0
  type : Int := 0
  queue : Int := 0
  due : Int := 0
  interval : Int := 0
  factor : Int := 0
  reps : Int := 0
  lapses : Int := 0
deriving DecidableEq, Repr, Inhabited

/-- A note. Its tags are separated by spaces and its fields stand in the order of its type. -/
structure Note where
  id : Int
  typeId : Int
  modified : Int := 0
  tags : String := ""
  fields : List String
  sortField : String
deriving DecidableEq, Repr, Inhabited

/-- A field of a note type. -/
structure Field where
  name : String
  ordinal : Nat := 0
  rightToLeft : Bool := false
  font : String := "Arial"
  size : Nat := 20
deriving DecidableEq, Repr, Inhabited

namespace Note

/-- The character between two field values in their stored form. -/
def separator : Char := '\x1f'

/-- The field values in their stored form. -/
def joinFields (fields : List String) : String :=
  String.ofList ([separator].intercalate (fields.map String.toList))

/-- The field values of a stored form. The empty text holds no field. -/
def splitFields (stored : String) : List String :=
  if stored.toList = [] then []
  else (stored.toList.splitOn separator).map String.ofList

/-- The sort field of a note that is not given another one: its first field. -/
def firstField (fields : List String) : String :=
  fields.headD ""

end Note

/-- A note as it is stored. -/
structure StoredNote where
  id : Int
  typeId : Int
  modified : Int
  tags : String
  fields : String
  sortField : String
deriving DecidableEq, Repr, Inhabited

/-- The stored form of tags: a space before and after them, or nothing if there are none. -/
def storedTags (tags : String) : String :=
  let trimmed := Text.trim tags
  if trimmed.toList = [] then "" else " " ++ trimmed ++ " "

/-- The stored form of a note. -/
def Note.stored (note : Note) : StoredNote where
  id := note.id
  typeId := note.typeId
  modified := note.modified
  tags := storedTags note.tags
  fields := Note.joinFields note.fields
  sortField := note.sortField

/-- The note of a stored form. -/
def StoredNote.note (stored : StoredNote) : Note where
  id := stored.id
  typeId := stored.typeId
  modified := stored.modified
  tags := Text.trim stored.tags
  fields := Note.splitFields stored.fields
  sortField := stored.sortField

/-- A note type as it is stored: its fields are the JSON text of their descriptors. -/
structure NoteType where
  id : Int
  name : String
  fields : String
deriving DecidableEq, Repr, Inhabited

end CardBrowser
