import CardBrowser.Column.Custom
import CardBrowser.Text.Lowercase

/-!
# The registry of custom columns

The registry is a list of columns with distinct types in the order in which the types were first
registered. Registering a type again replaces its column and keeps its place.
-/

namespace CardBrowser

/-- The registered custom columns. -/
structure Registry where
  columns : List CustomColumn := []

namespace Registry

/-- The types in the order of registration. -/
def types (registry : Registry) : List String :=
  registry.columns.map (·.type)

/-- The column of a type. -/
def lookup (registry : Registry) (type : String) : Option CustomColumn :=
  registry.columns.find? (·.type == type)

/-- Whether a column of the type is registered. -/
def contains (registry : Registry) (type : String) : Bool :=
  registry.columns.any (·.type == type)

/-- Puts a column in the place of the one with its type, or at the end if there is none. -/
def put (column : CustomColumn) : List CustomColumn → List CustomColumn
  | [] => [column]
  | old :: rest => if old.type = column.type then column :: rest else old :: put column rest

/-- Registers a column. Its type must not be empty. -/
def register (registry : Registry) (column : CustomColumn) : Except RegistryError Registry :=
  if column.type = "" then .error (.invalidIdentifier column.type)
  else .ok ⟨put column registry.columns⟩

/-- Removes the column of a type and returns it. -/
def unregister (registry : Registry) (type : String) :
    Except RegistryError (CustomColumn × Registry) :=
  match registry.lookup type with
  | none => .error (.notFound type)
  | some column => .ok (column, ⟨registry.columns.filter (·.type != type)⟩)

/-- Asks the column of a type for its sort expression. -/
def askSort (registry : Registry) (type : String) :
    Option (Except QueryError String) × Registry :=
  match registry.lookup type with
  | none => (none, registry)
  | some column =>
    let (answer, column) := column.askSort
    (answer, ⟨put column registry.columns⟩)

/-- Items in the order of their labels in lower case; items with equal labels stay in place. -/
def sortByLabel {α : Type} (label : α → String) (items : List α) : List α :=
  let keyed := items.map fun item => (Text.lowercase (label item), item)
  (keyed.mergeSort fun a b => decide (a.1 ≤ b.1)).map Prod.snd

/-- The columns in the order of their labels. -/
def sortedByLabel (registry : Registry) : List CustomColumn :=
  sortByLabel (·.label) registry.columns

/-- The text that shows a registry for inspection. -/
def inspect (registry : Registry) : String :=
  "ColumnRegistry \x7b columns: " ++ Text.quotedList registry.types ++ " \x7d"

end Registry

end CardBrowser
