import CardBrowser.Store.Basic

/-!
# Scripted stores

A scripted store answers every query with the same rows, whatever the query asks for. It fails
where its script says so, which shows how a search copes with failures.
-/

namespace CardBrowser

open CardBrowser.Search

/-- The answers of a scripted store. Of several cards or notes of one id the first one prevails,
of several note types the last one. -/
structure Script where
  /-- The rows of every query. -/
  rows : List (Int × Bool) := []
  /-- Statements that hold this text fail. -/
  failOn : Option String := none
  /-- Whether looking up cards and the notes of cards fails. -/
  failLookups : Bool := false
  /-- Pairs of a card and its note. -/
  noteIds : List (Int × Int) := []
  cards : List Card := []
  notes : List Note := []
  /-- The fields of note types; asking for a type without fields fails. -/
  noteTypes : List (Int × Option (List Field)) := []

namespace Script

/-- The failure of a scripted store. -/
def failure : StoreError :=
  .internal "fake" "scripted failure"

/-- Whether one text holds another. -/
def holds (text part : List Char) : Bool :=
  match text with
  | [] => part.isEmpty
  | c :: rest => part.isPrefixOf (c :: rest) || holds rest part

/-- An answer to a statement, unless the script lets the statement fail. -/
def answer {α : Type} (script : Script) (sql : String) (value : α) : Except StoreError α :=
  if script.failOn.any fun part => holds sql.toList part.toList then .error failure else .ok value

/-- An answer to a look-up, unless the script lets look-ups fail. -/
def lookUp {α : Type} (script : Script) (value : α) : Except StoreError α :=
  if script.failLookups then .error failure else .ok value

instance : Store Script where
  execute command script := (script.answer command.text (), script)
  cardIds query script := (script.answer query.text (script.rows.map Prod.fst), script)
  rankedIds query script := (script.answer query.text script.rows, script)
  noteIds _ script := (script.lookUp script.noteIds, script)
  card id script := (script.lookUp (script.cards.find? (·.id == id)), script)
  note id script :=
    (if id < 0 then .error failure else .ok (script.notes.find? (·.id == id)), script)
  fields typeId script :=
    (match script.noteTypes.reverse.find? (·.1 == typeId) with
      | none => .ok none
      | some (_, some fields) => .ok (some fields)
      | some (_, none) => .error failure,
     script)

end Script

end CardBrowser
