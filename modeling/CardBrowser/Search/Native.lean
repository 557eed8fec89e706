import CardBrowser.Column.Builtin
import CardBrowser.Store.Basic

/-!
# Searches by built-in columns

A column without a sort key is searched natively: in the order clause of the built-in column of its
type, or in the default order.
-/

namespace CardBrowser.Search

/-- The order of a column without an order clause. -/
def defaultOrder : String := "n.id, c.ord"

/-- The query of a native search. Notes are always joined, because order clauses refer to them. -/
def nativeQuery (builtins : BuiltinColumns) (predicate : Predicate) (sortType : String) :
    CardQuery :=
  ⟨Selection.ofPredicate predicate true,
   some ((builtins.orderClause sortType).getD defaultOrder)⟩

/-- The result of a native search. -/
def nativeSearch {σ : Type} [Store σ] (builtins : BuiltinColumns) (predicate : Predicate)
    (sortType : String) (direction : Direction) : Access σ (List Int) := fun store =>
  let (answer, store) := Store.cardIds (nativeQuery builtins predicate sortType) store
  ((answer.mapError (·.atStage .native)).map (reversed · direction), store)

end CardBrowser.Search
