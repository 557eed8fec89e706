import CardBrowser.Number.Binary64

/-!
# JSON values

The members of an object are kept in ascending order of their names, one member to a name, so two
objects with the same members are equal. Whole numbers and floating-point numbers are different
values: `1` is not `1.0`.
-/

namespace CardBrowser.Json

/-- A JSON value. -/
inductive Value where
  | null
  | bool (value : Bool)
  | integer (value : Int)
  | float (value : Binary64)
  | string (text : String)
  | array (items : List Value)
  | object (members : List (String × Value))
deriving Repr, Inhabited

/-- The members of an object. -/
abbrev Members := List (String × Value)

namespace Members

/-- The value of a member. -/
def get? (name : String) : Members → Option Value
  | [] => none
  | (key, value) :: rest => if key = name then some value else get? name rest

/-- Gives a member a value, in place of the one it had. -/
def set (name : String) (value : Value) : Members → Members
  | [] => [(name, value)]
  | (key, old) :: rest =>
    if name < key then (name, value) :: (key, old) :: rest
    else if key = name then (name, value) :: rest
    else (key, old) :: set name value rest

/-- The members of a list of pairs, a later pair prevailing over an earlier one of its name. -/
def ofList (pairs : List (String × Value)) : Members :=
  pairs.foldl (fun members (name, value) => set name value members) []

end Members

end CardBrowser.Json
