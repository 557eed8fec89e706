import Mathlib
import CardBrowser.Proofs.Search.Condition
import CardBrowser.Proofs.Search.Meaning
import CardBrowser.Proofs.Sql.Reader

/-!
# The text of a search condition

The condition of a search text has parentheses wherever precedence asks for them, so its SQL text
says what the condition says: `of_text_condition`. A negated clause stands in parentheses of its own,
and so do the alternatives of a clause.
-/

namespace CardBrowser.Search

open CardBrowser.Sql

variable {today : Int} {next : Nat} {term : Term} {clause : Clause} {word value : List Char}

/-- A term that asks for ids asks for some. -/
def Term.HasIds : Term → Prop
  | notes ids => ids ≠ []
  | cards ids => ids ≠ []
  | _ => True

/-- There are numbers in every list that is read. -/
theorem ne_nil_of_read_numbers {ids : List Int} (h : readNumbers value = .ok ids) : ids ≠ [] := by
  rintro rfl
  have hlength := (Except.map_m_eq_ok_iff.1 h).length_eq
  exact List.splitOn_ne_nil _ _ (List.eq_nil_of_length_eq_zero hlength)

/-- A qualifier that asks for ids asks for some. -/
theorem Qualifier.Reads.has_ids {qualifier : Qualifier} (h : qualifier.Reads value term) :
    term.HasIds := by
  cases h with
  | notes hids | cards hids => exact ne_nil_of_read_numbers hids
  | tag | deck | ordinal | state => trivial

/-- A word that asks for ids asks for some. -/
theorem has_ids_of_word (h : Term.ofWord word = .ok term) : term.HasIds := by
  rcases of_word_cases h with ⟨-, rfl⟩ | ⟨qualifier, value, -, hreads⟩
  · trivial
  · exact hreads.has_ids

/-- A clause that asks for ids asks for some. -/
theorem has_ids_of_clause (h : Clause.ofWord word = .ok clause) : clause.term.HasIds := by
  unfold Clause.ofWord at h
  split at h
  · obtain ⟨term, hterm, rfl⟩ := Except.map_eq_ok_iff.1 h
    exact has_ids_of_word hterm
  · obtain ⟨term, hterm, rfl⟩ := Except.map_eq_ok_iff.1 h
    exact has_ids_of_word hterm

/-- The columns of the card are readable. -/
theorem readable_card_column {name : String} (h : isPlainName name = true) :
    (cardColumn name).Readable :=
  .column (by decide) h

/-- The columns of the note are readable. -/
theorem readable_note_column {name : String} (h : isPlainName name = true) :
    (noteColumn name).Readable :=
  .column (by decide) h

/-- A comparison of a column of the note with a pattern is readable. -/
theorem readable_like {name : String} (h : isPlainName name = true) :
    (Expr.like (noteColumn name) (.placeholder next)).Readable :=
  .like (readable_note_column h) (.placeholder next) (show 4 ≤ 8 by decide) (show 4 < 8 by decide)

/-- A look for a column of the card in a list is readable unless the list is empty. -/
theorem readable_in_list {name : String} {numbers : List Int} (h : isPlainName name = true)
    (hnumbers : numbers ≠ []) : (Expr.inList (cardColumn name) numbers).Readable :=
  .inList (readable_card_column h) (show 4 ≤ 8 by decide) hnumbers

/-- A comparison of a column of the card with a number or a placeholder is readable. -/
theorem readable_comparison {op : BinaryOp} {name : String} {other : Expr}
    (h : isPlainName name = true) (hop : op ≠ .is) (hother : other.Readable)
    (htighter : op.level < other.level) : (Expr.binary op (cardColumn name) other).Readable := by
  refine .binary hop (readable_card_column h) hother ?_ htighter
  show op.level ≤ 8
  cases op <;> decide

/-- The condition of a state is readable, and it binds tighter than `AND` and `NOT`. -/
theorem readable_state (wanted : CardState) :
    (wanted.condition today next).1.Readable ∧ 4 ≤ (wanted.condition today next).1.level := by
  cases wanted with
  | due =>
      have hdue : (Expr.binary .lessEqual (cardColumn "due") (.placeholder next)).Readable :=
        readable_comparison (by decide) (by decide) (.placeholder next) (show 5 < 8 by decide)
      exact ⟨.paren (.binary (by decide) (readable_in_list (by decide) (by decide)) hdue
        (show 2 ≤ 4 by decide) (show 2 < 5 by decide)), show 4 ≤ 8 by decide⟩
  | learn => exact ⟨readable_in_list (by decide) (by decide), le_rfl⟩
  | _ =>
      exact ⟨readable_comparison (by decide) (by decide) (.integer (by decide)) (by decide), le_rfl⟩

/-- The condition of a term is readable, and it binds tighter than `AND` and `NOT`. -/
theorem readable_term (h : term.HasIds) :
    (term.condition today next).1.Readable ∧ 4 ≤ (term.condition today next).1.level := by
  have hnumber : ∀ name, isPlainName name = true →
      (Expr.binary .equal (cardColumn name) (.placeholder next)).Readable := fun name hname =>
    readable_comparison hname (by decide) (.placeholder next) (show 4 < 8 by decide)
  cases term with
  | text value =>
      exact ⟨.paren (.binary (by decide) (readable_like (by decide)) (readable_like (by decide))
        (show 1 ≤ 4 by decide) (show 1 < 4 by decide)), show 4 ≤ 8 by decide⟩
  | tag value => exact ⟨readable_like (by decide), le_rfl⟩
  | notes ids => exact ⟨readable_in_list (by decide) h, le_rfl⟩
  | cards ids => exact ⟨readable_in_list (by decide) h, le_rfl⟩
  | deck id => exact ⟨hnumber _ (by decide), le_rfl⟩
  | ordinal n => exact ⟨hnumber _ (by decide), le_rfl⟩
  | state wanted => exact readable_state wanted

/-- The condition of a clause is readable, and it binds tighter than `AND`. -/
theorem readable_clause (h : clause.term.HasIds) :
    (clause.condition today next).1.Readable ∧ 2 < (clause.condition today next).1.level := by
  obtain ⟨hterm, hlevel⟩ :
      (clause.term.condition today next).1.Readable ∧
        4 ≤ (clause.term.condition today next).1.level := readable_term h
  unfold Clause.condition
  dsimp only
  split_ifs
  · exact ⟨.not hterm, show 2 < 3 by decide⟩
  · exact ⟨hterm, le_trans (by decide) hlevel⟩

/-- A conjunction of the conditions of clauses is readable. -/
theorem readable_clauses {clauses : List Clause} (h : ∀ clause ∈ clauses, clause.term.HasIds) :
    (conjunction (conditions today next clauses).1).Readable := by
  have hparts : ∀ condition ∈ (conditions today next clauses).1,
      condition.Readable ∧ 2 < condition.level := by
    intro condition hmem
    obtain ⟨clause, hclause, next, rfl⟩ := mem_conditions hmem
    exact readable_clause (h clause hclause)
  -- What is built so far may bind as loosely as a conjunction.
  refine (conjunction_induction (fun whole => whole.Readable ∧ 2 ≤ whole.level)
    (fun part => part.Readable ∧ 2 < part.level) ⟨.integer (by decide), by decide⟩
      (fun part hpart => ⟨hpart.1, hpart.2.le⟩) ?_ hparts).1
  rintro left right ⟨hleft, hlooser⟩ ⟨hright, htighter⟩
  exact ⟨.binary (by decide) hleft hright hlooser htighter, le_rfl⟩

/-- Clauses that are read ask for some ids wherever they ask for ids. -/
theorem has_ids_of_clauses {text : List Char} {found : List Clause}
    (h : clauses text = .ok found) : ∀ clause ∈ found, clause.term.HasIds := by
  have hwords := Except.map_m_eq_ok_iff.1 (clauses_eq_ok_iff.1 h).2
  generalize words text = written at hwords
  clear h
  induction hwords with
  | nil => exact fun _ hmem => absurd hmem List.not_mem_nil
  | cons hword _ ih => exact List.forall_mem_cons.2 ⟨has_ids_of_clause hword, ih⟩

variable {text : String} {predicate : Predicate}

/-- The condition of a search text is readable. -/
theorem readable_of_text (h : Predicate.ofText today text = .ok predicate) :
    predicate.condition.Readable := by
  obtain ⟨found, hfound, rfl⟩ := of_text_eq_ok_iff.1 h
  exact readable_clauses (has_ids_of_clauses hfound)

/-- From the SQL text of a search a condition is read that has the same value everywhere. -/
theorem of_text_condition (h : Predicate.ofText today text = .ok predicate) :
    ∃ read, Expr.ofText? predicate.sql = some read ∧ ∀ tables parameters scope,
      read.eval tables parameters scope = predicate.condition.eval tables parameters scope :=
  ⟨_, (readable_of_text h).of_text, fun tables parameters scope =>
    Expr.eval_reading (readable_of_text h) tables parameters scope⟩

end CardBrowser.Search
