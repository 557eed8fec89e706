import CardBrowser.Sql.Expr
import CardBrowser.Sql.Keyword

/-!
# Names in scope

A name is looked up in the innermost select first and then further out. Within one select it has
to mean exactly one column. The case of letters matters neither to aliases nor to columns.
-/

namespace CardBrowser.Sql

/-- Why a statement cannot be run. -/
inductive Rejection where
  | unreadable (sql : String)
  | noSuchColumn (name : String)
  | ambiguousColumn (name : String)
  | noSuchTable (name : String)
deriving DecidableEq, Repr

/-- A row: the values of its columns by their names. -/
abbrev Row := List (String × Value)

/-- The value of the column of that name. -/
def Row.get? (row : Row) (name : String) : Option Value :=
  (row.find? fun column => sameName column.1 name).map Prod.snd

/-- The rows at hand in one select under their aliases, such as a card under `c` and its note under
`n`. -/
abbrev Frame := List (String × Row)

/-- The values that a name may stand for in a frame. -/
def Frame.candidates (frame : Frame) (qualifier : Option String) (name : String) : List Value :=
  frame.filterMap fun (shortName, row) =>
    if qualifier.all (sameName shortName) then row.get? name else none

/-- The frames of nested selects, the innermost first. -/
abbrev Scope := List Frame

/-- The value of a name: that of the innermost frame that knows it, where it must be the only
one. -/
def Scope.resolve (qualifier : Option String) (name : String) : Scope → Except Rejection Value
  | [] => .error (.noSuchColumn (Expr.column qualifier name).text)
  | frame :: outer =>
    match frame.candidates qualifier name with
    | [] => Scope.resolve qualifier name outer
    | [value] => .ok value
    | _ => .error (.ambiguousColumn (Expr.column qualifier name).text)

/-- What a table shows: the names of its columns and its rows. -/
structure Source where
  columns : List String
  rows : List Row
deriving Repr, Inhabited

/-- A row of nothing but NULL, against which names are checked. -/
def Source.sample (source : Source) : Row :=
  source.columns.map fun column => (column, .null)

/-- The tables that a statement may read, by their names. -/
abbrev Tables := String → Option Source

/-- The rows of a table; there are none if there is no such table. -/
def Tables.rows (tables : Tables) (name : String) : List Row :=
  ((tables name).map (·.rows)).getD []

end CardBrowser.Sql
