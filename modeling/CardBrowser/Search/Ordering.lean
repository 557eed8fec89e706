import CardBrowser.Direction
import CardBrowser.Sql.Expr

/-!
# The order of sort values

Cards are listed by the value of a sort expression: numbers by their size and before texts, texts
without regard to the case of ASCII letters, the empty text after every other value and NULL after
that. A text of nothing but digits and dots counts as a number, so `9` comes before `10a`. Cards
with a blank sort value, one that is NULL or empty, stay at the end in both directions.
-/

namespace CardBrowser.Search

open CardBrowser.Sql

/-- The pattern of the texts that hold something other than digits and dots. -/
def nonNumeric : String := "*[^0-9.]*"

/-- The terms of an order clause that sorts by a value. -/
def orderTerms (value : Expr) : List Expr :=
  [.binary .is (.paren value) .null,
   .binary .is (.paren value) (.string ""),
   .noCase (.choose (.glob (.paren value) (.string nonNumeric)) (.paren value)
    (.castReal (.paren value)))]

/-- The terms as SQL text. -/
def orderText (value : Expr) : String :=
  ", ".intercalate ((orderTerms value).map Expr.text)

/-- The condition that a sort value is blank. -/
def blankFlag (value : Expr) : Expr :=
  .paren (.binary .or (.binary .is (.paren value) .null)
    (.binary .is (.paren value) (.string "")))

/-- The ids of rows that are in ascending order, each with its blank flag, in the given direction:
descending reverses the rows before the first blank one and leaves the others where they are. -/
def directed (rows : List (Int × Bool)) : Direction → List Int
  | .ascending => rows.map Prod.fst
  | .descending =>
    let ranked := rows.takeWhile fun row => !row.2
    let blanks := rows.dropWhile fun row => !row.2
    (ranked.map Prod.fst).reverse ++ blanks.map Prod.fst

/-- A list of ids in the given direction: descending is the whole list reversed. -/
def reversed (ids : List Int) : Direction → List Int
  | .ascending => ids
  | .descending => ids.reverse

end CardBrowser.Search
