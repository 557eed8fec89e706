/-!
# Displayed columns

The displayed columns are a list of column types in display order, without repetitions and without
the empty type, because `push` refuses both. The last displayed column cannot be hidden.
-/

namespace CardBrowser

/-- The displayed columns. -/
structure ActiveColumns where
  types : List String := []
deriving DecidableEq, Repr

namespace ActiveColumns

/-- Whether a column is displayed. -/
def contains (active : ActiveColumns) (type : String) : Bool :=
  active.types.contains type

/-- Whether no column is displayed. -/
def isEmpty (active : ActiveColumns) : Bool :=
  active.types.isEmpty

/-- Whether `push` adds a column: it must have a type and not be displayed yet. -/
def accepts (active : ActiveColumns) (type : String) : Bool :=
  type != "" && !active.contains type

/-- Displays a column after the others. -/
def push (active : ActiveColumns) (type : String) : ActiveColumns :=
  if active.accepts type then ⟨active.types ++ [type]⟩ else active

/-- Hides a column. -/
def remove (active : ActiveColumns) (type : String) : ActiveColumns :=
  ⟨active.types.filter (· != type)⟩

/-- The displayed columns of a list, which may hold repetitions and empty types. -/
def ofList (types : List String) : ActiveColumns :=
  types.foldl push {}

/-- The displayed columns of a list that was saved earlier, and the types that are dropped because
they are not valid any more. -/
def ofSaved (saved : List String) (isValid : String → Bool) : ActiveColumns × List String :=
  (ofList (saved.filter isValid), saved.filter fun type => !isValid type)

/-- Hides a displayed column or displays a hidden one. Tells whether the column is displayed
afterwards. -/
def toggle (active : ActiveColumns) (type : String) : Bool × ActiveColumns :=
  if active.contains type then
    if 1 < active.types.length then (false, active.remove type) else (true, active)
  else (active.accepts type, active.push type)

/-- The place of a column. -/
def position (active : ActiveColumns) (type : String) : Option Nat :=
  active.types.findIdx? (· == type)

end ActiveColumns

end CardBrowser
