import Mathlib
import CardBrowser.Proofs.Sql.Expr
import CardBrowser.Search.Condition
import CardBrowser.Search.Statement

/-!
# The shape of search conditions

The condition of a search text reads columns of the card `c` and the note `n` and nothing else:
`reads_only_of_text`. So does the filter of a selection that is made of it.
-/

namespace CardBrowser.Search

open CardBrowser.Sql

variable {today : Int} {next : Nat}

/-- The names under which searches know a card and its note. -/
def shortNames : List String := ["c", "n"]

/-- The placeholders of a clause stand before those of the clauses after it. -/
theorem conditions_cons (next : Nat) (clause : Clause) (clauses : List Clause) :
    conditions today next (clause :: clauses) =
      ((clause.condition today next).1 ::
        (conditions today (next + (clause.condition today next).2.length) clauses).1,
       (clause.condition today next).2 ++
        (conditions today (next + (clause.condition today next).2.length) clauses).2) := rfl

/-- After earlier values, the values of a clause are earlier ones for the clauses after it. -/
theorem conditions_cons_after (earlier : List Value) (clause : Clause) (clauses : List Clause) :
    conditions today (earlier.length + 1) (clause :: clauses) =
      ((clause.condition today (earlier.length + 1)).1 ::
        (conditions today ((earlier ++
          (clause.condition today (earlier.length + 1)).2).length + 1) clauses).1,
       (clause.condition today (earlier.length + 1)).2 ++
        (conditions today ((earlier ++
          (clause.condition today (earlier.length + 1)).2).length + 1) clauses).2) := by
  rw [conditions_cons, List.length_append, Nat.add_right_comm]

/-- Every condition among those of clauses is the condition of one of them. -/
theorem mem_conditions {clauses : List Clause} {condition : Expr}
    (h : condition ∈ (conditions today next clauses).1) :
    ∃ clause ∈ clauses, ∃ next, condition = (clause.condition today next).1 := by
  induction clauses generalizing next with
  | nil => cases h
  | cons clause clauses ih =>
      rcases List.mem_cons.1 h with rfl | h
      · exact ⟨clause, List.mem_cons_self, next, rfl⟩
      · obtain ⟨other, hmem, next, rfl⟩ := ih h
        exact ⟨other, List.mem_cons_of_mem _ hmem, next, rfl⟩

/-- What is true of parts is true of their conjunction if it stays true with one part more. -/
theorem conjunction_induction (whole part : Expr → Prop) (hempty : whole (.integer 1))
    (hfirst : ∀ condition, part condition → whole condition)
    (hnext : ∀ left right, whole left → part right → whole (.binary .and left right))
    {conditions : List Expr} (h : ∀ condition ∈ conditions, part condition) :
    whole (conjunction conditions) := by
  cases conditions with
  | nil => exact hempty
  | cons condition conditions =>
      obtain ⟨hpart, hrest⟩ := List.forall_mem_cons.1 h
      have hcondition := hfirst condition hpart
      show whole (conditions.foldl (.binary .and) condition)
      -- The conjunction is built from the left, so what is built so far is generalized.
      clear h hpart
      induction conditions generalizing condition with
      | nil => exact hcondition
      | cons other conditions ih =>
          obtain ⟨hother, hrest⟩ := List.forall_mem_cons.1 hrest
          exact ih (.binary .and condition other) hrest (hnext condition other hcondition hother)

/-- The condition of a term reads the card and the note. -/
theorem reads_only_term (term : Term) :
    (term.condition today next).1.readsOnly shortNames = true := by
  cases term with
  | state wanted => cases wanted <;> rfl
  | _ => rfl

/-- The condition of a clause reads the card and the note. -/
theorem reads_only_clause (clause : Clause) :
    (clause.condition today next).1.readsOnly shortNames = true := by
  have hterm : (clause.term.condition today next).1.readsOnly shortNames = true :=
    reads_only_term clause.term
  unfold Clause.condition
  dsimp only
  split
  · exact hterm
  · exact hterm

/-- The conditions of clauses read the card and the note. -/
theorem reads_only_conditions (clauses : List Clause) :
    ∀ condition ∈ (conditions today next clauses).1, condition.readsOnly shortNames = true := by
  intro condition hmem
  obtain ⟨clause, -, next, rfl⟩ := mem_conditions hmem
  exact reads_only_clause clause

/-- A conjunction reads what its parts read. -/
theorem reads_only_conjunction {conditions : List Expr}
    (h : ∀ condition ∈ conditions, condition.readsOnly shortNames = true) :
    (conjunction conditions).readsOnly shortNames = true := by
  refine conjunction_induction (·.readsOnly shortNames = true) (·.readsOnly shortNames = true) rfl
    (fun _ => id) (fun left right hleft hright => ?_) h
  simp only [Expr.readsOnly, hleft, hright, Bool.and_self]

variable {text : String} {predicate : Predicate}

/-- The condition of a search text reads the card and the note. -/
theorem reads_only_of_text (h : Predicate.ofText today text = .ok predicate) :
    predicate.condition.readsOnly shortNames = true := by
  unfold Predicate.ofText at h
  split at h
  · cases h
    exact reads_only_conjunction (reads_only_conditions _)
  · cases h

/-- The filter of a selection reads the card and the note if the predicate does. -/
theorem reads_only_filter (h : predicate.condition.readsOnly shortNames = true) (joined : Bool) :
    (Selection.ofPredicate predicate joined).filter.readsOnly shortNames = true := by
  have hguarded : predicate.guarded.readsOnly shortNames = true := by
    unfold Predicate.guarded
    split
    · rfl
    · exact h
  cases joined with
  | false => exact hguarded
  | true =>
      show (Expr.binary .and _ predicate.guarded).readsOnly shortNames = true
      simp only [Expr.readsOnly, hguarded, Bool.and_true]
      decide

end CardBrowser.Search
