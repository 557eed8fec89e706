import CardBrowser.Json.Value

/-!
# Sort direction
-/

namespace CardBrowser

/-- The direction in which a browser lists its cards. -/
inductive Direction where
  | ascending
  | descending
deriving DecidableEq, Repr, Inhabited

namespace Direction

/-- The direction that a preference `backwards` stands for. -/
def ofBackwards (backwards : Bool) : Direction :=
  if backwards then descending else ascending

/-- Whether the direction is descending. -/
def isDescending : Direction → Bool
  | ascending => false
  | descending => true

/-- The other direction. -/
def toggled : Direction → Direction
  | ascending => descending
  | descending => ascending

/-- The name of a direction in JSON. -/
def name : Direction → String
  | ascending => "ascending"
  | descending => "descending"

/-- The direction of a name. -/
def ofName? (name : String) : Option Direction :=
  if name = "ascending" then some ascending
  else if name = "descending" then some descending
  else none

/-- The direction that a JSON value tells: by its name, or by an object whose only member has that
name and is null. -/
def ofJson? : Json.Value → Option Direction
  | .string name => ofName? name
  | .object [(name, .null)] => ofName? name
  | _ => none

end Direction

end CardBrowser
