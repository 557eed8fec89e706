import CardBrowser.Config
import CardBrowser.Error

/-!
# Preferences

The state of a browser is saved as four values among the values of other programs. What does not
have the right form is dropped when it is loaded, so loading never fails.
-/

namespace CardBrowser

open CardBrowser.Json

/-- The state of a browser that outlasts it. -/
structure Preferences where
  /-- The displayed columns, if they have ever been saved. -/
  activeColumns : Option (List String) := none
  sortType : Option String := none
  sortBackwards : Bool := false
  uniqueNotes : Bool := false
deriving DecidableEq, Repr

namespace Preferences

/-- The texts of a saved list. Other items are dropped, and what is no list is no value. -/
def textsOf? : Json.Value → Option (List String)
  | .array items => some (items.filterMap fun
    | .string text => some text
    | _ => none)
  | _ => none

/-- A saved text that is not empty. -/
def textOf? : Json.Value → Option String
  | .string text => if text = "" then none else some text
  | _ => none

/-- Whether a saved value is a true truth value or the whole number one. -/
def isOn : Json.Value → Bool
  | .bool value => value
  | .integer n => n == 1
  | _ => false

/-- The preferences among saved values. -/
def load (keys : PreferenceKeys) (values : Members) : Preferences where
  activeColumns := (values.get? keys.activeColumns).bind textsOf?
  sortType := (values.get? keys.sortType).bind textOf?
  sortBackwards := (values.get? keys.sortBackwards).any isOn
  uniqueNotes := (values.get? keys.uniqueNotes).any isOn

/-- Sets a value if there is one. -/
def setSome (key : String) (value : Option Json.Value) (values : Members) : Members :=
  match value with
  | some value => values.set key value
  | none => values

/-- Puts the preferences among saved values, each one under its key. -/
def save (preferences : Preferences) (keys : PreferenceKeys) (values : Members) : Members :=
  let columns := preferences.activeColumns.map fun types => .array (types.map .string)
  let values := setSome keys.activeColumns columns values
  let values := setSome keys.sortType (preferences.sortType.map .string) values
  let values := Members.set keys.sortBackwards (.bool preferences.sortBackwards) values
  Members.set keys.uniqueNotes (.bool preferences.uniqueNotes) values

end Preferences

/-- A place where values are kept. Values that have been set last only if they are flushed. -/
class PreferenceStore (π : Type) where
  values : π → Members
  withValues : Members → π → π
  flush : π → Except PreferenceError Unit × π

/-- Values that are kept in memory, and how often they have been flushed. -/
structure MemoryPreferences where
  values : Members := []
  flushes : Nat := 0
deriving Repr

instance : PreferenceStore MemoryPreferences where
  values := MemoryPreferences.values
  withValues values preferences := { preferences with values }
  flush preferences := (.ok (), { preferences with flushes := preferences.flushes + 1 })

end CardBrowser
