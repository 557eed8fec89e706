import Mathlib
import CardBrowser.Proofs.Database.Rank
import CardBrowser.Proofs.Sql.Order
import CardBrowser.Proofs.Sql.Pattern

/-!
# The order of ranked queries

The four order terms of a ranked query amount to one key of a sort value and a card id, `rankKey`:
the blank values come last, NULL after the empty text, and the others by what they count as.
`compares_rank_key` says that rows are compared by this key, and `ranked_pairs_sorted` that a ranked
query lists every card once for each time it is given, in the order of the keys. Keys depend on how
texts are cut; a database cuts them at the first NUL.
-/

namespace CardBrowser.Database

open CardBrowser.Sql CardBrowser.Search

variable {cut : List Char → List Char}

/-! ## Keys -/

/-- Whether a text, up to where it is cut, consists of digits and dots. -/
def writesNumber (cut : List Char → List Char) (text : String) : Bool :=
  (cut text.toList).all fun c => Text.isDigit c || c == '.'

/-- What a sort value counts as: the number that it writes, or itself. -/
def rankedValue (cut : List Char → List Char) (value : Value) : Value :=
  if value.asText?.any (writesNumber cut) then value.castReal else value

/-- The place of blank values behind the others: NULL comes after the empty text. -/
def blankClass (value : Value) : Nat :=
  if value = .null then 2 else if value = .text "" then 1 else 0

/-- What cards are put in order by. -/
abbrev RankKey := Nat ×ₗ ValueKey ×ₗ Int

/-- The key of a sort value and a card id. -/
def rankKey (cut : List Char → List Char) (value : Value) (id : Int) : RankKey :=
  toLex (blankClass value, toLex ((rankedValue cut value).orderKey cut, id))

/-- The pattern of texts that do not write a number finds a character that is neither a digit nor a
dot. -/
theorem glob_non_numeric (text : String) :
    glob text nonNumeric = !writesNumber beforeNul text := by
  have hitems : globItems (visibleCharacters nonNumeric).length (visibleCharacters nonNumeric) =
      [.anyRun, .oneOf true [('0', '9'), ('.', '.')], .anyRun] := by
    decide
  have hadmits : ∀ c, PatternItem.admits likeExact c (.oneOf true [('0', '9'), ('.', '.')]) =
      !(Text.isDigit c || c == '.') := by
    intro c
    have hdot : (decide ('.' ≤ c) && decide (c ≤ '.')) = (c == '.') := by
      by_cases hc : c = '.'
      · subst hc
        rfl
      · have hnot : ¬('.' ≤ c ∧ c ≤ '.') := fun h => hc (le_antisymm h.2 h.1)
        rw [← Bool.decide_and, decide_eq_false hnot, beq_eq_false_iff_ne.2 hc]
    simp [PatternItem.admits, Text.isDigit, hdot]
  -- The characters that patterns do not tell apart are neither digits nor dots.
  have hvisible : (visibleCharacters text).any (fun c => !(Text.isDigit c || c == '.')) =
      !writesNumber beforeNul text := by
    unfold visibleCharacters writesNumber
    rw [List.any_map, List.not_all_eq_any_not]
    congr 1
    funext c
    by_cases hc : c = '\uFFFE' ∨ c = '\uFFFF'
    · rcases hc with rfl | rfl <;> rfl
    · simp only [Function.comp_apply, if_neg hc]
  unfold glob
  simp only [hitems]
  rw [matches_text_between (by simp), ← hvisible]
  simp only [hadmits]

/-- The value that an order term computes is what the sort value counts as. -/
theorem comparand_eq (value : Value) : comparand value = rankedValue beforeNul value := by
  unfold comparand rankedValue patternValue
  cases htext : value.asText? with
  | none =>
      have hnull : value = .null := by
        cases value <;> simp_all [Value.asText?]
      subst hnull
      rfl
  | some text =>
      simp only [Value.asText?, glob_non_numeric, Option.any_some]
      by_cases hwrites : writesNumber beforeNul text = true
      · simp [hwrites, Value.ofBool, Value.truth?]
      · simp [hwrites, Value.ofBool, Value.truth?]

/-! ## Comparison of rows -/

/-- Whether a value is NULL. -/
theorem same_null (value : Value) : value.same .null = decide (value = .null) := by
  cases value with
  | null => rfl
  | _ => rfl

/-- Whether a value is the empty text. -/
theorem same_empty (value : Value) : value.same (.text "") = decide (value = .text "") := by
  cases value with
  | text s =>
      show (compare s "" == .eq) = decide (Value.text s = .text "")
      rw [Bool.eq_iff_iff, beq_iff_eq, compare_eq_iff_eq]
      simp
  | _ => rfl

/-- Truth values are compared as the numbers that they are. -/
theorem order_of_bool (a b : Bool) :
    Value.order .binary (.ofBool a) (.ofBool b) = compare a.toNat b.toNat := by
  cases a <;> cases b <;> rfl

/-- The first two terms of a ranked query compare blank values. -/
theorem compares_blank_class (value other : Value) :
    ((Value.order .binary (.ofBool (value.same .null)) (.ofBool (other.same .null))).then
      (Value.order .binary (.ofBool (value.same (.text "")))
        (.ofBool (other.same (.text ""))))).Compares (blankClass value) (blankClass other) := by
  have hcases : ∀ value : Value, (decide (value = .null) = true ∧
      decide (value = .text "") = false ∧ blankClass value = 2) ∨
      (decide (value = .null) = false ∧ decide (value = .text "") = true ∧
        blankClass value = 1) ∨
      (decide (value = .null) = false ∧ decide (value = .text "") = false ∧
        blankClass value = 0) := by
    intro value
    by_cases hnull : value = .null
    · subst hnull
      exact Or.inl ⟨rfl, rfl, rfl⟩
    · by_cases hempty : value = .text ""
      · subst hempty
        exact Or.inr (Or.inl ⟨rfl, rfl, rfl⟩)
      · exact Or.inr (Or.inr ⟨decide_eq_false hnull, decide_eq_false hempty,
          by simp [blankClass, hnull, hempty]⟩)
  rw [order_of_bool, order_of_bool, same_null, same_null, same_empty, same_empty]
  rcases hcases value with ⟨hn, he, hclass⟩ | ⟨hn, he, hclass⟩ | ⟨hn, he, hclass⟩ <;>
    rcases hcases other with ⟨hn', he', hclass'⟩ | ⟨hn', he', hclass'⟩ | ⟨hn', he', hclass'⟩ <;>
    rw [hn, he, hclass, hn', he', hclass'] <;> exact (compare_iff _ _).1 (by decide)

/-- The rows of a ranked query are compared by their sort values, and where these count as the same
by whatever the ids are compared by. -/
theorem compares_rank_row {κ : Type} [LinearOrder κ] {id otherId : Value} {key otherKey : κ}
    (hid : (Value.order .binary id otherId).Compares key otherKey) (value other : Value) :
    (keyOrder (rankTerms sortColumn cardId) (rankRow value id) (rankRow other otherId)).Compares
      (toLex (blankClass value, toLex ((rankedValue beforeNul value).orderKey beforeNul, key)))
      (toLex (blankClass other,
        toLex ((rankedValue beforeNul other).orderKey beforeNul, otherKey))) := by
  have hkeys := compares_to_lex (compares_blank_class value other)
    (compares_to_lex (Value.compares_order_key (comparand value) (comparand other)) hid)
  rw [Ordering.then_assoc] at hkeys
  rw [← @Ordering.then_eq (Value.order .binary id otherId)] at hkeys
  rw [← comparand_eq, ← comparand_eq]
  exact hkeys

/-- The rows of a ranked query are compared by the keys of their sort values and card ids. -/
theorem compares_rank_key (value other : Value) (id otherId : Int) :
    (keyOrder (rankTerms sortColumn cardId) (rankRow value (.integer id))
      (rankRow other (.integer otherId))).Compares (rankKey beforeNul value id)
        (rankKey beforeNul other otherId) :=
  compares_rank_row (Value.compares_integer .binary id otherId) value other

/-! ## Ranked queries -/

/-- A ranked query lists its rows in ascending order of any keys that they are compared by. -/
theorem ranked_pairs_eq {α κ : Type} [LinearOrder κ] {key : α → κ} {pair : α → Value × Value}
    (h : ∀ first second, (keyOrder (rankTerms sortColumn cardId)
      (rankRow (pair first).2 (pair first).1) (rankRow (pair second).2 (pair second).1)).Compares
        (key first) (key second)) (choices : List α) :
    ∃ sorted : List α, sorted.Perm choices ∧
      (sorted.Pairwise fun first second => key first ≤ key second) ∧
      rankedPairs (choices.map pair) =
        sorted.map fun choice => (wholeNumber (pair choice).1, isBlank (pair choice).2) := by
  -- Sorting rows is sorting pairs, since rows are compared by the keys of their pairs.
  let before := fun first second : α => decide (key first ≤ key second)
  let row := fun choice : α => rankRow (pair choice).2 (pair choice).1
  have hrows : (choices.mergeSort before).map row =
      sortRows (rankTerms sortColumn cardId) (choices.map row) := by
    refine List.map_mergeSort fun first _ second _ => ?_
    have hcompares := h first second
    rw [Bool.eq_iff_iff, decide_eq_true_iff, bne_iff_ne]
    exact ⟨fun hle heq => absurd (hcompares.eq_gt.1 heq) (not_lt.2 hle),
      fun hne => not_lt.1 fun hlt => hne (hcompares.eq_gt.2 hlt)⟩
  refine ⟨choices.mergeSort before, choices.mergeSort_perm before, ?_, ?_⟩
  · have htrans : ∀ a b c, before a b = true → before b c = true → before a c = true := by
      intro a b c hab hbc
      exact decide_eq_true ((of_decide_eq_true hab).trans (of_decide_eq_true hbc))
    have htotal : ∀ a b, (before a b || before b a) = true := by
      intro a b
      simp only [before, Bool.or_eq_true, decide_eq_true_eq]
      exact le_total _ _
    exact (List.pairwise_mergeSort htrans htotal choices).imp fun h => of_decide_eq_true h
  · unfold rankedPairs rankedRows
    rw [List.map_map]
    show List.map _ (sortRows _ (choices.map row)) = _
    rw [← hrows, List.map_map]
    refine List.map_congr_left fun choice _ => ?_
    show (_, (Value.ofBool (isBlank (pair choice).2)).truth? == some true) = _
    cases isBlank (pair choice).2 <;> rfl

/-- A ranked query lists cards in ascending order of their keys, each of them once for each time it
is given. -/
theorem ranked_pairs_sorted (choices : List (Value × Int)) :
    ∃ sorted : List (Value × Int), sorted.Perm choices ∧
      (sorted.Pairwise fun first second =>
        rankKey beforeNul first.1 first.2 ≤ rankKey beforeNul second.1 second.2) ∧
      rankedPairs (choices.map fun choice => (.integer choice.2, choice.1)) =
        sorted.map fun choice => (choice.2, isBlank choice.1) := by
  let key : Value × Int → RankKey := fun choice => rankKey beforeNul choice.1 choice.2
  let pair : Value × Int → Value × Value := fun choice => (.integer choice.2, choice.1)
  have hkeys : ∀ first second, (keyOrder (rankTerms sortColumn cardId)
      (rankRow (pair first).2 (pair first).1) (rankRow (pair second).2 (pair second).1)).Compares
        (key first) (key second) :=
    fun first second => compares_rank_key first.1 second.1 first.2 second.2
  exact ranked_pairs_eq hkeys choices

end CardBrowser.Database
