import CardBrowser.Column.Registry
import CardBrowser.Text.Word

/-!
# Sort keys

The sort key of a custom column says what a search sorts by. A column that is not registered, that
cannot be sorted by, or whose host fails to give an expression has no sort key, and a search by it
is left to the built-in columns.
-/

namespace CardBrowser

/-- What a search sorts by: an SQL expression, or nothing if the column asks for no order. -/
structure SortKey where
  expression : Option String
  cached : Bool
deriving DecidableEq, Repr

namespace SortKey

/-- Whether the expression holds a nested `SELECT`. -/
def hasSelect (key : SortKey) : Bool :=
  key.expression.any Text.containsSelect

/-- Whether the sort values should be computed once and kept in a table. -/
def needsTable (key : SortKey) : Bool :=
  key.expression.isSome && (key.cached || key.hasSelect)

/-- The sort key of an expression, which is trimmed; blank text asks for no order. -/
def ofExpression (expression : String) (cached : Bool) : SortKey :=
  let trimmed := Text.trim expression
  ⟨if trimmed = "" then none else some trimmed, cached⟩

end SortKey

/-- The sort key of a column type, and the registry after its column has been asked. -/
def Registry.sortKey (registry : Registry) (type : String) : Option SortKey × Registry :=
  match registry.lookup type with
  | none => (none, registry)
  | some column =>
    match registry.askSort type with
    | (some (.ok expression), registry) =>
      (some (SortKey.ofExpression expression column.cached), registry)
    | (_, registry) => (none, registry)

end CardBrowser
