import Mathlib
import CardBrowser.Proofs.Search.Condition
import CardBrowser.Proofs.Text.Qualifiers

/-!
# What the text of a condition tells

Whether notes are joined is decided by the text of a condition. `mentions_alias_of_reads` says that
the text mentions every short name by which the condition reads a column, so a condition whose text
does not mention notes does without them.
-/

namespace CardBrowser.Search

open CardBrowser.Sql CardBrowser.Text

variable {names others : List String} {shortName : String}

/-- The text of an expression mentions a short name if the expression reads a column by it. -/
theorem mentions_alias_of_reads {expr : Expr} (hname : isName shortName.toList = true)
    (hnames : ∀ name ∈ names, name = shortName ∨ name ∈ others)
    (h : expr.readsOnly names = true) (hnot : expr.readsOnly others = false) :
    mentionsAlias expr.text shortName = true := by
  induction expr with
  | column qualifier name =>
      cases qualifier with
      | none => cases h
      | some qualifier =>
          simp only [Expr.readsOnly, List.contains_iff_mem] at h
          have hother : qualifier ∉ others := by
            simpa [Expr.readsOnly] using hnot
          obtain rfl := (hnames qualifier h).resolve_right hother
          exact mentions_alias_before_dot name hname
  | paren inner ih =>
      show mentionsAlias ("(" ++ inner.text ++ ")") shortName = true
      apply mentions_alias_append_left
      exact mentions_alias_append_right (by decide) (ih h hnot)
  | negate operand ih =>
      show mentionsAlias ("-" ++ operand.text) shortName = true
      exact mentions_alias_append_right (by decide) (ih h hnot)
  | not operand ih =>
      show mentionsAlias ("NOT " ++ operand.text) shortName = true
      exact mentions_alias_append_right (by decide) (ih h hnot)
  | binary op left right hleft hright =>
      show mentionsAlias (left.text ++ " " ++ op.symbol ++ " " ++ right.text) shortName = true
      simp only [Expr.readsOnly, Bool.and_eq_true, Bool.and_eq_false_iff] at h hnot
      rcases hnot with hnot | hnot
      · iterate 4 apply mentions_alias_append_left
        exact hleft h.1 hnot
      · exact mentions_alias_append_right (ends_in_word_append_eq_false (by decide))
          (hright h.2 hnot)
  | inList operand numbers ih =>
      show mentionsAlias (operand.text ++ " IN (" ++ _ ++ ")") shortName = true
      iterate 3 apply mentions_alias_append_left
      exact ih h hnot
  | like operand pattern hoperand hpattern =>
      show mentionsAlias (operand.text ++ " LIKE " ++ pattern.text ++ " ESCAPE '\\'") shortName =
        true
      simp only [Expr.readsOnly, Bool.and_eq_true, Bool.and_eq_false_iff] at h hnot
      apply mentions_alias_append_left
      rcases hnot with hnot | hnot
      · iterate 2 apply mentions_alias_append_left
        exact hoperand h.1 hnot
      · exact mentions_alias_append_right (ends_in_word_append_eq_false (by decide))
          (hpattern h.2 hnot)
  | glob operand pattern hoperand hpattern =>
      show mentionsAlias (operand.text ++ " GLOB " ++ pattern.text) shortName = true
      simp only [Expr.readsOnly, Bool.and_eq_true, Bool.and_eq_false_iff] at h hnot
      rcases hnot with hnot | hnot
      · iterate 2 apply mentions_alias_append_left
        exact hoperand h.1 hnot
      · exact mentions_alias_append_right (ends_in_word_append_eq_false (by decide))
          (hpattern h.2 hnot)
  | choose condition first second hcondition hfirst hsecond =>
      show mentionsAlias ("CASE WHEN " ++ condition.text ++ " THEN " ++ first.text ++ " ELSE " ++
        second.text ++ " END") shortName = true
      simp only [Expr.readsOnly, Bool.and_eq_true, Bool.and_eq_false_iff] at h hnot
      apply mentions_alias_append_left
      rcases hnot with (hnot | hnot) | hnot
      · iterate 4 apply mentions_alias_append_left
        exact mentions_alias_append_right (by decide) (hcondition h.1.1 hnot)
      · iterate 2 apply mentions_alias_append_left
        exact mentions_alias_append_right (ends_in_word_append_eq_false (by decide))
          (hfirst h.1.2 hnot)
      · exact mentions_alias_append_right (ends_in_word_append_eq_false (by decide))
          (hsecond h.2 hnot)
  | castReal operand ih =>
      show mentionsAlias ("CAST(" ++ operand.text ++ " AS REAL)") shortName = true
      apply mentions_alias_append_left
      exact mentions_alias_append_right (by decide) (ih h hnot)
  | noCase operand ih =>
      show mentionsAlias (operand.text ++ " COLLATE NOCASE") shortName = true
      exact mentions_alias_append_left _ (ih h hnot)
  | call function argument ih =>
      show mentionsAlias (function.name ++ "(" ++ argument.text ++ ")") shortName = true
      apply mentions_alias_append_left
      exact mentions_alias_append_right (ends_in_word_append_eq_false (by decide)) (ih h hnot)
  | nullIf first second hfirst hsecond =>
      show mentionsAlias ("NULLIF(" ++ first.text ++ ", " ++ second.text ++ ")") shortName = true
      simp only [Expr.readsOnly, Bool.and_eq_true, Bool.and_eq_false_iff] at h hnot
      apply mentions_alias_append_left
      rcases hnot with hnot | hnot
      · iterate 2 apply mentions_alias_append_left
        exact mentions_alias_append_right (by decide) (hfirst h.1 hnot)
      · exact mentions_alias_append_right (ends_in_word_append_eq_false (by decide))
          (hsecond h.2 hnot)
  | select => cases h
  | verbatim sql => cases h
  | _ => cases hnot

/-- A condition whose text does not mention notes reads the card only. -/
theorem reads_card_of_not_mentions {predicate : Predicate}
    (h : predicate.condition.readsOnly shortNames = true)
    (hmentions : predicate.mentions "n" = false) :
    predicate.condition.readsOnly ["c"] = true := by
  by_contra hnot
  have hnames : ∀ name ∈ shortNames, name = "n" ∨ name ∈ ["c"] := by decide
  have htext := mentions_alias_of_reads (by decide) hnames h (Bool.eq_false_iff.2 hnot)
  rw [show mentionsAlias predicate.condition.text "n" = false from hmentions] at htext
  cases htext

/-! ## Blank texts -/

/-- A text is not blank if one of two parts is not. -/
theorem all_blank_append (before after : String) :
    allBlank (before ++ after) = (allBlank before && allBlank after) := by
  unfold allBlank
  rw [String.toList_append, List.all_append]

/-- The text of an operator and its operands is not blank. -/
theorem not_all_blank_binary (op : BinaryOp) (left right : Expr) :
    allBlank (Expr.binary op left right).text = false := by
  have hsymbol : allBlank op.symbol = false := by
    cases op <;> decide
  show allBlank (left.text ++ " " ++ op.symbol ++ " " ++ right.text) = false
  simp only [all_blank_append, hsymbol, Bool.and_false, Bool.false_and]

/-- The text of a comparison with a pattern is not blank. -/
theorem not_all_blank_like (operand pattern : Expr) :
    allBlank (Expr.like operand pattern).text = false := by
  have hword : allBlank " LIKE " = false := by decide
  show allBlank (operand.text ++ " LIKE " ++ pattern.text ++ " ESCAPE '\\'") = false
  simp only [all_blank_append, hword, Bool.and_false, Bool.false_and]

/-- The text of a comparison with a list is not blank. -/
theorem not_all_blank_in_list (operand : Expr) (numbers : List Int) :
    allBlank (Expr.inList operand numbers).text = false := by
  have hword : allBlank " IN (" = false := by decide
  show allBlank (operand.text ++ " IN (" ++ _ ++ ")") = false
  simp only [all_blank_append, hword, Bool.and_false, Bool.false_and]

/-- A text that begins with what is not blank is not blank. -/
theorem not_all_blank_paren (inner : Expr) : allBlank (Expr.paren inner).text = false := by
  have hparen : allBlank "(" = false := by decide
  show allBlank ("(" ++ inner.text ++ ")") = false
  simp only [all_blank_append, hparen, Bool.false_and]

/-- The text of a clause is not blank. -/
theorem not_all_blank_clause {today : Int} {next : Nat} (clause : Clause) :
    allBlank (clause.condition today next).1.text = false := by
  have hterm : allBlank (clause.term.condition today next).1.text = false := by
    cases clause.term with
    | text value => exact not_all_blank_paren _
    | tag value => exact not_all_blank_like _ _
    | notes ids => exact not_all_blank_in_list _ _
    | cards ids => exact not_all_blank_in_list _ _
    | deck id => exact not_all_blank_binary _ _ _
    | ordinal n => exact not_all_blank_binary _ _ _
    | state wanted =>
        cases wanted with
        | learn => exact not_all_blank_in_list _ _
        | due => exact not_all_blank_paren _
        | _ => exact not_all_blank_binary _ _ _
  unfold Clause.condition
  dsimp only
  split
  · show allBlank ("NOT " ++ (Expr.paren _).text) = false
    rw [all_blank_append, not_all_blank_paren, Bool.and_false]
  · exact hterm

/-- The condition of a search text is never left out for being blank. -/
theorem is_blank_of_text {today : Int} {text : String} {predicate : Predicate}
    (h : Predicate.ofText today text = .ok predicate) : predicate.isBlank = false := by
  have hclauses : ∀ clauses : List Clause, (Predicate.ofClauses today clauses).isBlank = false := by
    intro clauses
    cases clauses with
    | nil =>
        show allBlank (Expr.integer 1).text = false
        decide
    | cons clause clauses =>
        show allBlank ((conditions today _ clauses).1.foldl (.binary .and)
          (clause.condition today 1).1).text = false
        generalize (conditions today _ clauses).1 = others
        -- The last conjunction is the outermost one.
        rcases List.eq_nil_or_concat others with rfl | ⟨others, other, rfl⟩
        · exact not_all_blank_clause clause
        · rw [List.concat_eq_append, List.foldl_append]
          exact not_all_blank_binary _ _ _
  unfold Predicate.ofText at h
  split at h
  · cases h
    exact hclauses _
  · cases h

/-- The condition of a search text is put in parentheses where it is a part of a filter. -/
theorem guarded_of_text {today : Int} {text : String} {predicate : Predicate}
    (h : Predicate.ofText today text = .ok predicate) :
    predicate.guarded = .paren predicate.condition := by
  unfold Predicate.guarded
  rw [is_blank_of_text h]
  rfl

end CardBrowser.Search
