import CardBrowser.Card
import CardBrowser.Json.Interpretation
import CardBrowser.Json.Printer

/-!
# Field lists in JSON

A note type is stored with the JSON text of its fields. A field is written as an object with all
five members in a fixed order; when it is read, every member but the name may be left out, and an
array gives the members by position.
-/

namespace CardBrowser

open CardBrowser.Json

/-- The names of the members of a field, in the order in which they are written. -/
def Field.memberNames : List String :=
  ["name", "ord", "rtl", "font", "size"]

/-- The values of the members of a field. -/
def Field.memberValues (field : Field) : List Json.Value :=
  [.string field.name, .integer field.ordinal, .bool field.rightToLeft, .string field.font,
   .integer field.size]

/-- A field as a JSON object. -/
def Field.text (field : Field) : String :=
  (Value.object (Field.memberNames.zip field.memberValues)).compact

/-- A list of fields as a JSON array. -/
def fieldListText (fields : List Field) : String :=
  "[" ++ ",".intercalate (fields.map Field.text) ++ "]"

/-- The greatest size of a field's font. -/
def greatestSize : Nat := 4294967295

/-- The field that a JSON tree describes. -/
def Field.ofNode? (node : Node) : Option Field := do
  let members ← node.record? Field.memberNames
  match members with
  | [some name, ordinal, rightToLeft, font, size] =>
    return {
      name := ← name.text?
      ordinal := ← Node.orDefault (Node.natUpTo? greatestWord) 0 ordinal
      rightToLeft := ← Node.orDefault Node.bool? false rightToLeft
      font := ← Node.orDefault Node.text? "Arial" font
      size := ← Node.orDefault (Node.natUpTo? greatestSize) 20 size }
  | _ => none

/-- The list of fields that a text describes. -/
def fieldList? (text : String) : Option (List Field) := do
  let node ← Node.ofText? text
  (← node.items?).mapM Field.ofNode?

end CardBrowser
