import Mathlib
import CardBrowser.Proofs.Search.Shape

/-!
# Phrases between quotes

Quotes keep the blanks of a phrase together and do no more: what stands between them is one word,
which is read as if the quotes were not there. So a phrase is looked for as text exactly when it
neither begins with a dash that negates nor has a known qualifier: `quoted_asks_text_iff`.
-/

namespace CardBrowser.Search

open CardBrowser.Sql

variable {today : Int} {word : List Char}

/-- The search text of a phrase between quotes. -/
def quotedText (phrase : String) : String := "\"" ++ phrase ++ "\""

/-- A predicate asks that the sort field or the fields contain a value, and for nothing else. -/
structure AsksText (value : String) (predicate : Predicate) : Prop where
  sql : predicate.sql = "(n.sfld LIKE ?1 ESCAPE '\\' OR n.flds LIKE ?1 ESCAPE '\\')"
  parameters : predicate.parameters =
    [.text ("%" ++ String.ofList (escapePattern value.toList) ++ "%")]

/-- A phrase between quotes is read as one word, whatever blanks there are in it. -/
theorem clauses_quoted {phrase : String} (hne : phrase ≠ "") (hquote : '"' ∉ phrase.toList) :
    clauses (quotedText phrase).toList =
      (Clause.ofWord phrase.toList).map fun clause => [clause] := by
  have htext : (quotedText phrase).toList = '"' :: (phrase.toList ++ ['"']) := by
    unfold quotedText
    simp only [String.toList_append]
    rfl
  have hcount : (quotedText phrase).toList.count '"' % 2 = 0 := by
    rw [htext, List.count_cons_self, List.count_append, List.count_eq_zero_of_not_mem hquote]
    rfl
  have hnonempty : phrase.toList ≠ [] := fun hnil => hne (String.toList_eq_nil_iff.1 hnil)
  unfold clauses
  rw [words_eq, if_pos hcount, htext, words_phrase hnonempty hquote]
  show [phrase.toList].mapM Clause.ofWord = _
  rw [List.mapM_cons]
  cases Clause.ofWord phrase.toList <;> rfl

/-- The first two characters of a condition. -/
def Kind.opening : Kind → List Char
  | text => ['(', 'n']
  | tag => ['n', '.']
  | state .due => ['(', 'c']
  | _ => ['c', '.']

/-- What a text begins with, it begins with whatever follows. -/
theorem begins_append {opening : List Char} {text : String} (h : opening <+: text.toList)
    (rest : String) : opening <+: (text ++ rest).toList := by
  rw [String.toList_append]
  exact h.trans (List.prefix_append _ _)

/-- A condition begins with its first two characters. -/
theorem begins_kind (kind : Kind) (k : Nat) : kind.opening <+: (kind.sql k).toList := by
  cases kind with
  | text =>
      iterate 4 apply begins_append
      decide
  | tag =>
      iterate 2 apply begins_append
      decide
  | notes ids | cards ids =>
      show ['c', '.'] <+: _
      iterate 2 apply begins_append
      decide
  | deck | ordinal =>
      apply begins_append
      decide
  | state wanted =>
      cases wanted with
      | due =>
          iterate 2 apply begins_append
          decide
      | new => exact (by decide : ['c', '.'] <+: "c.type = 0".toList)
      | learn => exact (by decide : ['c', '.'] <+: "c.queue IN (1, 3)".toList)
      | review => exact (by decide : ['c', '.'] <+: "c.type = 2".toList)
      | suspended => exact (by decide : ['c', '.'] <+: "c.queue = -1".toList)

/-- The condition of a text begins as no other condition does. -/
theorem kind_eq_text {kind : Kind} {k : Nat} (h : kind.sql k = Kind.text.sql k) : kind = .text := by
  have hkind : kind.opening <+: (Kind.text.sql k).toList := h ▸ begins_kind kind k
  have hlength : kind.opening.length = Kind.text.opening.length := by
    cases kind with
    | state wanted => cases wanted <;> rfl
    | _ => rfl
  have hopening : kind.opening = Kind.text.opening :=
    (List.prefix_of_prefix_length_le hkind (begins_kind .text k) hlength.le).eq_of_length hlength
  cases kind with
  | text => rfl
  | state wanted => cases wanted <;> exact absurd hopening (by decide)
  | _ => exact absurd hopening (by simp [Kind.opening])

/-- The SQL of a word is the condition of a text only if the word is not negated and asks for a
text. -/
theorem shape_eq_text {shape : Shape} {k : Nat} (h : shape.sql k = Kind.text.sql k) :
    shape = ⟨false, .text⟩ := by
  obtain ⟨negated, kind⟩ := shape
  cases negated with
  | false => rw [kind_eq_text (show kind.sql k = _ from h)]
  | true =>
      have hnot : ['N', 'O'] <+: (Shape.sql k ⟨true, kind⟩).toList := by
        show ['N', 'O'] <+: ("NOT (" ++ kind.sql k ++ ")").toList
        iterate 2 apply begins_append
        decide
      rw [h] at hnot
      have hsame : ['N', 'O'] = ['(', 'n'] :=
        (List.prefix_of_prefix_length_le hnot (begins_kind .text k) le_rfl).eq_of_length rfl
      exact absurd hsame (by decide)

/-- The predicate of a clause that looks for a text. -/
theorem asks_text_of_clause (value : String) :
    AsksText value (Predicate.ofClauses today [⟨false, .text value.toList⟩]) where
  sql := (sql_of_clauses _).1.trans
    (show shapesSql [⟨false, .text⟩] = "(n.sfld LIKE ?1 ESCAPE '\\' OR n.flds LIKE ?1 ESCAPE '\\')"
      by decide)
  parameters := by
    show [Value.text (String.ofList ('%' :: escapePattern value.toList ++ ['%']))] = _
    rw [String.ofList_append, String.ofList_cons]
    rfl

/-- A phrase between quotes is read as the word that it is without them. It is looked for as text
exactly when no dash negates it and no known qualifier stands at its beginning. -/
theorem quoted_asks_text_iff (today : Int) (phrase : String) (hne : phrase ≠ "")
    (hquote : '"' ∉ phrase.toList) :
    (clauses (quotedText phrase).toList =
      (Clause.ofWord phrase.toList).map fun clause => [clause]) ∧
    ((∃ predicate, Predicate.ofText today (quotedText phrase) = .ok predicate ∧
        AsksText phrase predicate) ↔
      isNegated phrase.toList = false ∧ Unqualified phrase.toList) := by
  have hclauses := clauses_quoted hne hquote
  refine ⟨hclauses, ?_⟩
  constructor
  · rintro ⟨predicate, hpredicate, hasks⟩
    obtain ⟨found, hfound, rfl⟩ := of_text_eq_ok_iff.1 hpredicate
    rw [hclauses] at hfound
    obtain ⟨clause, hclause, rfl⟩ := Except.map_eq_ok_iff.1 hfound
    -- The predicate does not say how the word was read, so this is told from its SQL.
    have hsql : clause.shape.sql 1 = Kind.text.sql 1 :=
      (sql_of_clauses [clause]).1.symm.trans (hasks.sql.trans (by decide))
    have hshape : HasShape phrase.toList clause.shape := has_shape_of_word hclause
    rw [shape_eq_text hsql] at hshape
    obtain ⟨hnegated, hkind⟩ := hshape
    rw [undashed_of_not_negated hnegated] at hkind
    cases hkind with
    | text h => exact ⟨hnegated, h⟩
  · rintro ⟨hnegated, hunqualified⟩
    refine ⟨_, of_text_eq_ok_iff.2 ⟨[⟨false, .text phrase.toList⟩], ?_, rfl⟩,
      asks_text_of_clause phrase⟩
    rw [hclauses, of_word_eq, undashed_of_not_negated hnegated, hnegated,
      of_word_of_unqualified hunqualified]
    rfl

/-- Blanks, a colon after an unknown name and dashes inside a phrase are looked for. -/
theorem quoted_asks_text_front : ∃ predicate,
    Predicate.ofText 0 (quotedText "front: -50% off") = .ok predicate ∧
      predicate.parameters = [.text "%front: -50\\% off%"] := by
  obtain ⟨-, hasks⟩ := quoted_asks_text_iff 0 "front: -50% off" (by decide) (by decide)
  have hunqualified : Unqualified "front: -50% off".toList := by
    intro name hname value hword
    obtain ⟨qualifier, rfl⟩ := exists_qualifier hname
    have hsplit : splitColon? "front: -50% off".toList =
      some ("front".toList, " -50% off".toList) := by decide
    have hfold := ((has_qualifier_iff hsplit (colon_not_mem_name qualifier)).1 hword).1
    revert hfold
    cases qualifier <;> decide
  obtain ⟨predicate, hpredicate, htext⟩ := hasks.2 ⟨by decide, hunqualified⟩
  exact ⟨predicate, hpredicate, htext.parameters⟩

/-- A phrase that begins with a dash is negated and not looked for, and a phrase that is no more
than a qualifier is refused. -/
theorem quoted_dash_negates :
    (¬ ∃ predicate, Predicate.ofText 0 (quotedText "-dog") = .ok predicate ∧
      AsksText "-dog" predicate) ∧
    ¬ ∃ predicate, Predicate.ofText 0 (quotedText "tag:") = .ok predicate := by
  constructor
  · rintro ⟨predicate, hpredicate, hasks⟩
    obtain ⟨found, hfound, rfl⟩ := of_text_eq_ok_iff.1 hpredicate
    have hdash : clauses (quotedText "-dog").toList = .ok [⟨true, .text "dog".toList⟩] := by
      rw [clauses_quoted (by decide) (by decide)]
      rfl
    obtain rfl := Except.ok.inj (hfound.symm.trans hdash)
    have hparameters := hasks.parameters
    revert hparameters
    decide
  · rintro ⟨predicate, hpredicate⟩
    obtain ⟨found, hfound, rfl⟩ := of_text_eq_ok_iff.1 hpredicate
    rw [clauses_quoted (by decide) (by decide)] at hfound
    cases hfound

end CardBrowser.Search
