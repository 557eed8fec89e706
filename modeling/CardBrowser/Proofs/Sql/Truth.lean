import Mathlib
import CardBrowser.Proofs.Sql.Order
import CardBrowser.Sql.Eval

/-!
# Conditions that are never NULL

`Value.Decides` says that a value is a truth value, and which one. Comparisons of whole numbers and
of texts decide something, and so do the operators on truth values.
-/

namespace CardBrowser.Sql.Value

/-- A value is true if a property holds and false if it does not. -/
def Decides (value : Value) (p : Prop) : Prop :=
  ∃ truth, value.truth? = some truth ∧ (truth = true ↔ p)

variable {a b : Value} {p q : Prop} {m n : Int}

/-- A truth value decides what it tells. -/
theorem decides_of_bool {truth : Bool} (h : truth = true ↔ p) : Decides (ofBool truth) p := by
  refine ⟨truth, ?_, h⟩
  cases truth <;> rfl

/-- What a value decides may be said in other words. -/
theorem Decides.congr (h : Decides a p) (hiff : p ↔ q) : Decides a q := by
  obtain ⟨truth, htruth, hholds⟩ := h
  exact ⟨truth, htruth, hholds.trans hiff⟩

/-- Where a value decides a property, it counts as true if the property holds. -/
theorem Decides.counts_iff (h : Decides a p) : (a.truth? == some true) = true ↔ p := by
  obtain ⟨truth, htruth, hholds⟩ := h
  rw [htruth, ← hholds, beq_iff_eq, Option.some.injEq]

/-- A negation decides that the property does not hold. -/
theorem Decides.not (h : Decides a p) : Decides (ofBool? (a.truth?.map (!·))) (¬ p) := by
  obtain ⟨truth, htruth, hholds⟩ := h
  rw [htruth]
  refine decides_of_bool ?_
  rw [← hholds, Bool.not_eq_true', Bool.not_eq_true]

/-- A conjunction decides that both properties hold. -/
theorem Decides.and (h : Decides a p) (h' : Decides b q) :
    Decides (BinaryOp.and.apply a b) (p ∧ q) := by
  obtain ⟨truth, htruth, hholds⟩ := h
  obtain ⟨truth', htruth', hholds'⟩ := h'
  have happly : BinaryOp.and.apply a b = ofBool (truth && truth') := by
    show ofBool? (and? a.truth? b.truth?) = _
    rw [htruth, htruth']
    cases truth <;> cases truth' <;> rfl
  rw [happly]
  refine decides_of_bool ?_
  rw [Bool.and_eq_true_iff, hholds, hholds']

/-- A disjunction decides that one of the properties holds. -/
theorem Decides.or (h : Decides a p) (h' : Decides b q) :
    Decides (BinaryOp.or.apply a b) (p ∨ q) := by
  obtain ⟨truth, htruth, hholds⟩ := h
  obtain ⟨truth', htruth', hholds'⟩ := h'
  have happly : BinaryOp.or.apply a b = ofBool (truth || truth') := by
    show ofBool? (or? a.truth? b.truth?) = _
    rw [htruth, htruth']
    cases truth <;> cases truth' <;> rfl
  rw [happly]
  refine decides_of_bool ?_
  rw [Bool.or_eq_true_iff, hholds, hholds']

/-- Equality of whole numbers. -/
theorem decides_equal (m n : Int) :
    Decides (BinaryOp.equal.apply (integer m) (integer n)) (m = n) := by
  refine decides_of_bool ?_
  rw [beq_iff_eq]
  exact (compares_integer .binary m n).eq_eq

/-- The order of whole numbers. -/
theorem decides_less_equal (m n : Int) :
    Decides (BinaryOp.lessEqual.apply (integer m) (integer n)) (m ≤ n) := by
  refine decides_of_bool ?_
  rw [bne_iff_ne]
  exact (compares_integer .binary m n).ne_gt

/-- Membership in a list of whole numbers. -/
theorem decides_member (n : Int) (numbers : List Int) :
    Decides (memberValue (integer n) numbers) (n ∈ numbers) := by
  refine decides_of_bool ?_
  rw [List.any_eq_true]
  constructor
  · rintro ⟨m, hmem, hsame⟩
    obtain rfl : n = m := (compares_integer .binary n m).eq_eq.1 (eq_of_beq hsame)
    exact hmem
  · exact fun hmem => ⟨n, hmem, beq_iff_eq.2 ((compares_integer .binary n n).eq_eq.2 rfl)⟩

/-- Comparison of a text with a pattern. -/
theorem decides_like (s pattern : String) :
    Decides (patternValue like (text s) (text pattern)) (like s pattern = true) :=
  decides_of_bool Iff.rfl

end CardBrowser.Sql.Value
