import CardBrowser.Card
import CardBrowser.Error
import CardBrowser.Text.Quoted

/-!
# Custom columns

A custom column is made by the host program. It shows a value for every card and may name an SQL
expression to sort by. The host computes that expression whenever it is asked for, so its answers
form a sequence, and the column counts how many of them have been given.
-/

namespace CardBrowser

/-- The answers of a host program that is asked for a sort expression. The empty expression asks
for no order at all. -/
structure SortSource where
  answer : Nat → Except QueryError String
  asked : Nat := 0

namespace SortSource

/-- A source that always gives the same answer. -/
def constant (answer : Except QueryError String) : SortSource where
  answer := fun _ => answer

/-- A source that gives the answers of a list one after the other, over and over. -/
def cycle (first : Except QueryError String) (others : List (Except QueryError String)) :
    SortSource where
  answer := fun n => ((first :: others)[n % (others.length + 1)]?).getD first

/-- The next answer, and the source after it has been given. -/
def ask (source : SortSource) : Except QueryError String × SortSource :=
  (source.answer source.asked, { source with asked := source.asked + 1 })

end SortSource

/-- A custom column. A column without a sort source cannot be sorted by. -/
structure CustomColumn where
  type : String
  label : String
  value : Card → Note → String
  sort : Option SortSource := none
  /-- Whether the sort value is costly, so that it should be computed once for every search. -/
  cached : Bool := false

namespace CustomColumn

/-- Whether the column can be sorted by. -/
def isSortable (column : CustomColumn) : Bool :=
  column.sort.isSome

/-- Asks for the sort expression. A column that cannot be sorted by has none. -/
def askSort (column : CustomColumn) :
    Option (Except QueryError String) × CustomColumn :=
  match column.sort with
  | none => (none, column)
  | some source =>
    let (answer, source) := source.ask
    (some answer, { column with sort := some source })

/-- The text that shows a column for inspection. -/
def inspect (column : CustomColumn) : String :=
  "ColumnDefinition \x7b column_type: " ++ Text.quoted column.type ++
    ", display_name: " ++ Text.quoted column.label ++
    ", sortable: " ++ toString column.isSortable ++
    ", cache_sort_value: " ++ toString column.cached ++ ", .. \x7d"

end CustomColumn

end CardBrowser
