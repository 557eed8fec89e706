import Mathlib
import CardBrowser.Proofs.Database.Columns
import CardBrowser.Proofs.Search.Condition
import CardBrowser.Proofs.Search.Meaning
import CardBrowser.Proofs.Search.Wildcard
import CardBrowser.Proofs.Sql.Truth

/-!
# The value of a search condition

The condition of a search text decides of a card and its note whether all words of the text hold of
them: `condition_decides`. A condition that is made of parts finds the values of its placeholders
after those of earlier parts, so these are a variable here. Whether a text contains a value is
decided as patterns see the two; `words_hold_iff` says where this is plain containment.
-/

namespace CardBrowser.Search

open CardBrowser.Database CardBrowser.Sql

/-- A card and its note under their short names. -/
def cardFrame (card : Card) (note : StoredNote) : Frame :=
  [("c", card.row), ("n", note.row)]

section Evaluation

variable {tables : Tables} {parameters earlier : List Value} {today : Int} {card : Card}
  {note : StoredNote} {name : String} {value : Value}

/-- The value of a column of the card. -/
theorem eval_card_column (hmem : (name, value) ∈ card.row) :
    (cardColumn name).eval tables parameters [cardFrame card note] = value := by
  have hname : sameName "n" "c" = false := by decide
  have hframe : ((cardFrame card note).filter fun entry => sameName entry.1 "c") =
      [("c", card.row)] := by
    simp [cardFrame, hname, same_name_self]
  exact Expr.eval_of_resolve (resolve_of_mem hframe (card_names card) hmem)

/-- The value of a column of the note. -/
theorem eval_note_column (hmem : (name, value) ∈ note.row) :
    (noteColumn name).eval tables parameters [cardFrame card note] = value := by
  have hname : sameName "c" "n" = false := by decide
  have hframe : ((cardFrame card note).filter fun entry => sameName entry.1 "n") =
      [("n", note.row)] := by
    simp [cardFrame, hname, same_name_self]
  exact Expr.eval_of_resolve (resolve_of_mem hframe (note_names note) hmem)

/-- The value of the first placeholder after those of earlier parts. -/
theorem parameter_eq (h : earlier ++ [value] <+: parameters) :
    parameter parameters (earlier.length + 1) = value.bound := by
  obtain ⟨later, rfl⟩ := h
  unfold parameter
  simp

/-! ## Parts -/

/-- The pattern of two values in a row is made of their patterns. -/
theorem escape_pattern_append (value other : List Char) :
    escapePattern (value ++ other) = escapePattern value ++ escapePattern other := by
  induction value with
  | nil => rfl
  | cons c value ih =>
      rw [List.cons_append, escapePattern, escapePattern, ih]
      split_ifs <;> rfl

/-- A comparison of a column with the pattern of a value decides whether the value occurs in it. -/
theorem like_decides {operand : Expr} {s : String} (value : List Char)
    (hoperand : operand.eval tables parameters [cardFrame card note] = .text s)
    (hpattern : parameter parameters (earlier.length + 1) =
      .text (String.ofList ('%' :: escapePattern value ++ ['%']))) :
    ((Expr.like operand (.placeholder (earlier.length + 1))).eval tables parameters
      [cardFrame card note]).Decides (Occurs value s.toList) := by
  show (patternValue Sql.like (operand.eval _ _ _) (parameter _ _)).Decides _
  rw [hoperand, hpattern]
  exact (Value.decides_like _ _).congr (like_escaped_iff value s)

/-- A comparison of a column with a number decides whether it holds that number. -/
theorem equal_decides {other : Expr} {m n : Int}
    (hcolumn : (name, Value.integer m) ∈ card.row)
    (hother : other.eval tables parameters [cardFrame card note] = .integer n) :
    ((Expr.binary .equal (cardColumn name) other).eval tables parameters
      [cardFrame card note]).Decides (m = n) := by
  show (BinaryOp.equal.apply ((cardColumn name).eval _ _ _) (other.eval _ _ _)).Decides _
  rw [eval_card_column hcolumn, hother]
  exact Value.decides_equal m n

/-- A look for a column in a list decides whether the list has the number in it. -/
theorem in_list_decides {m : Int} (numbers : List Int)
    (hcolumn : (name, Value.integer m) ∈ card.row) :
    ((Expr.inList (cardColumn name) numbers).eval tables parameters
      [cardFrame card note]).Decides (m ∈ numbers) := by
  show (memberValue ((cardColumn name).eval _ _ _) numbers).Decides _
  rw [eval_card_column hcolumn]
  exact Value.decides_member m numbers

/-- The condition of a state decides whether the card is in it. -/
theorem state_decides (wanted : CardState)
    (h : earlier ++ (wanted.condition today (earlier.length + 1)).2 <+: parameters) :
    ((wanted.condition today (earlier.length + 1)).1.eval tables parameters
      [cardFrame card note]).Decides (wanted.Holds today card) := by
  cases wanted with
  | new => exact equal_decides (by simp [Card.row]) rfl
  | learn =>
      refine (in_list_decides [1, 3] (m := card.queue) (by simp [Card.row])).congr ?_
      simp [CardState.Holds]
  | review => exact equal_decides (by simp [Card.row]) rfl
  | suspended => exact equal_decides (by simp [Card.row]) rfl
  | due =>
      have htoday : parameter parameters (earlier.length + 1) = .integer today := parameter_eq h
      have hdue : ((Expr.binary .lessEqual (cardColumn "due")
          (.placeholder (earlier.length + 1))).eval tables parameters
            [cardFrame card note]).Decides (card.due ≤ today) := by
        have hcolumn : ("due", Value.integer card.due) ∈ card.row := by simp [Card.row]
        show (BinaryOp.lessEqual.apply ((cardColumn "due").eval _ _ _)
          (parameter _ _)).Decides _
        rw [eval_card_column hcolumn, htoday]
        exact Value.decides_less_equal _ _
      refine Value.Decides.congr (Value.Decides.and
        (in_list_decides [2, 3] (m := card.queue) (by simp [Card.row])) hdue) ?_
      simp [CardState.Holds]

/-- The condition of a term decides whether the term holds. -/
theorem term_decides (term : Term)
    (h : earlier ++ (term.condition today (earlier.length + 1)).2 <+: parameters) :
    ((term.condition today (earlier.length + 1)).1.eval tables parameters
      [cardFrame card note]).Decides (term.Holds Occurs today card note) := by
  cases term with
  | text value =>
      have hpattern : parameter parameters (earlier.length + 1) =
          .text (String.ofList ('%' :: escapePattern value ++ ['%'])) := parameter_eq h
      exact Value.Decides.or
        (like_decides value (eval_note_column (by simp [StoredNote.row])) hpattern)
        (like_decides value (eval_note_column (by simp [StoredNote.row])) hpattern)
  | tag value =>
      have hspaces : '%' :: ' ' :: escapePattern value ++ [' ', '%'] =
          '%' :: escapePattern (' ' :: value ++ [' ']) ++ ['%'] := by
        rw [escape_pattern_append]
        simp [escapePattern]
      have hpattern : parameter parameters (earlier.length + 1) =
          .text (String.ofList ('%' :: escapePattern (' ' :: value ++ [' ']) ++ ['%'])) := by
        rw [← hspaces]
        exact parameter_eq h
      exact like_decides _ (eval_note_column (by simp [StoredNote.row])) hpattern
  | notes ids => exact in_list_decides ids (by simp [Card.row])
  | cards ids => exact in_list_decides ids (by simp [Card.row])
  | deck id => exact equal_decides (by simp [Card.row]) (parameter_eq h)
  | ordinal n => exact equal_decides (by simp [Card.row]) (parameter_eq h)
  | state wanted => exact state_decides wanted h

/-- The condition of a clause decides whether the clause holds. -/
theorem clause_decides (clause : Clause)
    (h : earlier ++ (clause.condition today (earlier.length + 1)).2 <+: parameters) :
    ((clause.condition today (earlier.length + 1)).1.eval tables parameters
      [cardFrame card note]).Decides (clause.Holds Occurs today card note) := by
  have hterm : ((clause.term.condition today (earlier.length + 1)).1.eval tables parameters
      [cardFrame card note]).Decides (clause.term.Holds Occurs today card note) :=
    term_decides clause.term h
  unfold Clause.condition Clause.Holds
  dsimp only
  split
  · exact hterm.not
  · exact hterm

/-- The conditions of clauses decide one by one whether the clauses hold. -/
theorem conditions_decide (clauses : List Clause)
    (h : earlier ++ (conditions today (earlier.length + 1) clauses).2 <+: parameters) :
    List.Forall₂ (fun condition clause =>
        (condition.eval tables parameters [cardFrame card note]).Decides
          (clause.Holds Occurs today card note))
      (conditions today (earlier.length + 1) clauses).1 clauses := by
  induction clauses generalizing earlier with
  | nil => exact .nil
  | cons clause clauses ih =>
      rw [conditions_cons_after] at h ⊢
      rw [← List.append_assoc] at h
      exact .cons (clause_decides clause ((List.prefix_append _ _).trans h)) (ih h)

/-- The conjunction of conditions decides whether everything holds that they decide. -/
theorem conjunction_decides {conditions : List Expr} {properties : List Prop} {scope : Scope}
    (h : List.Forall₂ (fun condition p => (condition.eval tables parameters scope).Decides p)
      conditions properties) :
    ((conjunction conditions).eval tables parameters scope).Decides (∀ p ∈ properties, p) := by
  cases h with
  | nil => exact ⟨true, rfl, by simp⟩
  | @cons condition p conditions properties hfirst hrest =>
      rw [List.forall_mem_cons]
      show ((conditions.foldl (.binary .and) condition).eval _ _ _).Decides _
      -- The conjunction is built from the left, so what is built so far is generalized.
      induction hrest generalizing condition p with
      | nil => exact hfirst.congr (by simp)
      | @cons next q _ _ hnext _ ih =>
          have hboth : ((Expr.binary .and condition next).eval tables parameters scope).Decides
              (p ∧ q) := hfirst.and hnext
          refine (ih hboth).congr ?_
          rw [List.forall_mem_cons, and_assoc]

/-- The predicate of clauses decides whether all of them hold. -/
theorem clauses_decide (clauses : List Clause) :
    ((Predicate.ofClauses today clauses).condition.eval tables
      (Predicate.ofClauses today clauses).parameters [cardFrame card note]).Decides
        (∀ clause ∈ clauses, clause.Holds Occurs today card note) := by
  have hconditions : List.Forall₂ (fun condition clause =>
        (condition.eval tables (conditions today 1 clauses).2 [cardFrame card note]).Decides
          (clause.Holds Occurs today card note))
      (conditions today 1 clauses).1 clauses :=
    @conditions_decide tables _ [] today card note clauses (List.prefix_refl _)
  have hproperties := List.forall₂_map_right_iff.2 hconditions
  exact (conjunction_decides hproperties).congr List.forall_mem_map

/-- The condition of a search text decides whether all words of the text hold. -/
theorem condition_decides {text : String} {predicate : Predicate}
    (h : Predicate.ofText today text = .ok predicate) :
    (predicate.condition.eval tables predicate.parameters [cardFrame card note]).Decides
      (∀ word ∈ words text.toList, WordHolds Occurs today card note word) := by
  obtain ⟨found, hfound, rfl⟩ := of_text_eq_ok_iff.1 h
  obtain ⟨-, hwords⟩ := clauses_eq_ok_iff.1 hfound
  exact (clauses_decide found).congr (clauses_hold hwords)

end Evaluation

/-! ## Plain texts -/

/-- Patterns see every character of the texts of a note. -/
structure IsPlainNote (note : StoredNote) : Prop where
  sortField : IsPlain note.sortField.toList
  fields : IsPlain note.fields.toList
  tags : IsPlain note.tags.toList

variable {today : Int} {card : Card} {note : StoredNote} {text word : List Char}

/-- A part of a plain text is plain. -/
theorem IsPlain.of_subset (h : IsPlain text) (hsubset : word ⊆ text) : IsPlain word :=
  fun c hmem => h c (hsubset hmem)

/-- In a plain note patterns find a plain word where the note contains it. -/
theorem plain_word_holds_iff (hnote : IsPlainNote note) (hword : IsPlain word) :
    PlainWordHolds Occurs today card note word ↔ PlainWordHolds Contains today card note word := by
  have htext : (Occurs word note.sortField.toList ∨ Occurs word note.fields.toList) ↔
      (Contains word note.sortField.toList ∨ Contains word note.fields.toList) :=
    or_congr (occurs_iff_contains hword hnote.sortField) (occurs_iff_contains hword hnote.fields)
  have hqualified : ∀ name value, HasQualifier name value word →
      (QualifierHolds Occurs today card note name value ↔
        QualifierHolds Contains today card note name value) := by
    rintro name value ⟨written, rfl, -⟩
    have hvalue : IsPlain (' ' :: value ++ [' ']) := by
      intro c hmem
      rcases List.mem_append.1 hmem with hmem | hmem
      · rcases List.mem_cons.1 hmem with rfl | hmem
        · decide
        · exact hword c (by simp [hmem])
      · rw [List.mem_singleton.1 hmem]
        decide
    unfold QualifierHolds
    rw [occurs_iff_contains hvalue hnote.tags]
  constructor
  · intro h
    cases h with
    | text hunqualified h => exact .text hunqualified (htext.1 h)
    | qualified hqualifier h => exact .qualified hqualifier ((hqualified _ _ hqualifier).1 h)
  · intro h
    cases h with
    | text hunqualified h => exact .text hunqualified (htext.2 h)
    | qualified hqualifier h => exact .qualified hqualifier ((hqualified _ _ hqualifier).2 h)

/-- The same is true of a word with a dash. -/
theorem word_holds_iff (hnote : IsPlainNote note) (hword : IsPlain word) :
    WordHolds Occurs today card note word ↔ WordHolds Contains today card note word := by
  unfold WordHolds
  split
  · exact not_congr (plain_word_holds_iff hnote (hword.of_subset (List.subset_cons_self _ _)))
  · exact plain_word_holds_iff hnote hword

/-- In a plain note patterns find the words of a plain text where the note contains them. -/
theorem words_hold_iff (hnote : IsPlainNote note) (htext : IsPlain text) :
    (∀ word ∈ words text, WordHolds Occurs today card note word) ↔
      ∀ word ∈ words text, WordHolds Contains today card note word :=
  forall₂_congr fun _ hword => word_holds_iff hnote (htext.of_subset (subset_of_mem_words hword))

end CardBrowser.Search
