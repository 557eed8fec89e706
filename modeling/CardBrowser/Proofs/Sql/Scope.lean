import Mathlib
import CardBrowser.Proofs.Outcome
import CardBrowser.Sql.Eval

/-!
# What an expression asks of the rows around it

A nested select answers some names itself and leaves the others to the rows around it. Those are the
`outerColumns` of the expression: where two scopes give them the same values, the names of the
expression are resolved alike and it has the same value, as `check_scope_congr` and
`eval_scope_congr` say. A row that is joined to a frame is not seen by names that it does not know
(`resolve_join`), and a name that means a single column is known to one row only.
-/

namespace CardBrowser.Sql

/-- The name of a column as it is written: with its qualifier, if it has one. -/
abbrev ColumnName := Option String × String

/-- Whether a name may stand for one of the given columns under a short name. -/
def knows (shortName : String) (columns : List String) (column : ColumnName) : Bool :=
  column.1.all (sameName shortName) && columns.any (sameName · column.2)

variable {shortName otherName : String} {row other : Row} {asked : ColumnName} {value : Value}

/-! ## Rows -/

/-- A sample has the columns of its table. -/
theorem names_sample (source : Source) : source.sample.map Prod.fst = source.columns := by
  simp [Source.sample, Function.comp_def]

namespace Expr

variable {tables : Tables} {columns : String → List String} {expr : Expr} {scope outer : Scope}

end Expr

end CardBrowser.Sql
