import Mathlib
import CardBrowser.Database.Query

/-!
# The rows of ranked queries

A ranked query sorts by four results and gives a blank flag as the fifth. `rank_row_eq` says that
the five depend on the sort value and the card id alone, so it does not matter to the order where
these two come from: `ranked_rows_congr`.
-/

namespace CardBrowser.Database

open CardBrowser.Sql CardBrowser.Search

/-- Whether a value is NULL or the empty text. -/
def isBlank (value : Value) : Bool :=
  value.same .null || value.same (.text "")

/-- The value by which a sort value that is not blank is put in order: a text of nothing but digits
and dots counts as a number. -/
def comparand (value : Value) : Value :=
  if (patternValue glob value (.text nonNumeric)).truth? = some true then value else value.castReal

/-- The results of a ranked query for a sort value and a card id. -/
def rankRow (value id : Value) : List Value :=
  [.ofBool (value.same .null), .ofBool (value.same (.text "")), comparand value, id,
   .ofBool (isBlank value)]

/-- The results that a ranked query asks for. -/
def rankExprs (value id : Expr) : List Expr :=
  (rankTerms value id).map (·.expr) ++ [blankFlag value]

/-- The results of a ranked query are those of its sort value and its card id. -/
theorem rank_row_eq (tables : Tables) (parameters : List Value) (scope : Scope) (value id : Expr) :
    (rankExprs value id).map (fun expr => expr.eval tables parameters scope) =
      rankRow (value.eval tables parameters scope) (id.eval tables parameters scope) := by
  have hflag : ∀ a b, BinaryOp.apply .or (.ofBool a) (.ofBool b) = .ofBool (a || b) := by decide
  show [_, _, _, _, BinaryOp.apply .or (.ofBool _) (.ofBool _)] = _
  rw [hflag]
  rfl

/-- The order of rows depends on how the terms compare and not on what they are. -/
theorem key_order_congr {terms others : List OrderTerm}
    (h : terms.map (fun term => (term.expr.collation, term.descending)) =
      others.map fun term => (term.expr.collation, term.descending)) :
    keyOrder terms = keyOrder others := by
  induction terms generalizing others with
  | nil =>
      cases others with
      | nil => rfl
      | cons other others => simp at h
  | cons term terms ih =>
      cases others with
      | nil => simp at h
      | cons other others =>
          simp only [List.map_cons, List.cons.injEq, Prod.mk.injEq] at h
          obtain ⟨⟨hcollation, hdescending⟩, hrest⟩ := h
          funext left right
          cases left with
          | nil => rfl
          | cons a left =>
              cases right with
              | nil => rfl
              | cons b right => simp only [keyOrder, termOrder, hcollation, hdescending, ih hrest]

/-- Ranked queries put the same rows in the same order if they compare card ids alike. -/
theorem ranked_rows_congr {value other id otherId : Expr} (h : id.collation = otherId.collation)
    (rows : List (List Value)) :
    rankedRows (rankTerms value id) rows = rankedRows (rankTerms other otherId) rows := by
  have hkey : keyOrder (rankTerms value id) = keyOrder (rankTerms other otherId) :=
    key_order_congr (by simp [rankTerms, orderTerms, Expr.collation, h])
  unfold rankedRows sortRows
  rw [hkey]
  rfl

/-- The card ids and blank flags that a ranked query lists for pairs of a card id and a sort
value. -/
def rankedPairs (pairs : List (Value × Value)) : List (Int × Bool) :=
  rankedRows (rankTerms sortColumn cardId) (pairs.map fun pair => rankRow pair.2 pair.1)

end CardBrowser.Database
