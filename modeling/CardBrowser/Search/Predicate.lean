import CardBrowser.Sql.Expr
import CardBrowser.Text.Word

/-!
# Predicates

A predicate is a condition on a card `c` and its note `n` together with the values of its
placeholders, `?1` being the first value. A host program may give the condition as SQL text.
-/

namespace CardBrowser.Search

open CardBrowser.Sql

/-- A condition with the values of its placeholders. -/
structure Predicate where
  condition : Expr
  parameters : List Value := []
deriving DecidableEq, Repr, Inhabited

namespace Predicate

/-- The predicate that every card satisfies. -/
def everything : Predicate :=
  ⟨.integer 1, []⟩

/-- The predicate of SQL text. -/
def ofSql (sql : String) (parameters : List Value) : Predicate :=
  ⟨.verbatim sql, parameters⟩

/-- The condition as SQL text. -/
def sql (predicate : Predicate) : String :=
  predicate.condition.text

/-- Whether the condition is blank text, which stands for no condition at all. -/
def isBlank (predicate : Predicate) : Bool :=
  Text.allBlank predicate.sql

/-- The condition of a `WHERE` clause: in parentheses, or true if there is none. -/
def guarded (predicate : Predicate) : Expr :=
  if predicate.isBlank then .integer 1 else .paren predicate.condition

/-- Adds a value and returns the text of its placeholder. -/
def addParameter (predicate : Predicate) (value : Value) : Predicate × String :=
  let parameters := predicate.parameters ++ [value]
  ({ predicate with parameters }, (Expr.placeholder parameters.length).text)

/-- Whether the condition refers to a column through the alias. -/
def mentions (predicate : Predicate) (shortName : String) : Bool :=
  Text.mentionsAlias predicate.sql shortName

end Predicate

end CardBrowser.Search
