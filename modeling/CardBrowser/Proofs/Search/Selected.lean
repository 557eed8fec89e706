import Mathlib
import CardBrowser.Proofs.Search.Accepted
import CardBrowser.Proofs.Search.Evaluation
import CardBrowser.Proofs.Search.ReadBack

/-!
# The cards that a search text selects

`text_selects` is the meaning of a search text: a query with its condition runs, unless it is too
large for the database, and lists the cards of which every word holds. What the words ask of a card
and its note is said by `WordHolds`, and what it means that a text contains a value by `Occurs`; in
texts of which patterns see every character that is plain containment.
-/

namespace CardBrowser.Search

open CardBrowser.Database CardBrowser.Sql

variable {database : Database} {notes : Table StoredNote} {cards : Table Card} {today : Int}
  {text : String} {predicate : Predicate} {card : Card} {note : StoredNote}

/-- The condition that is read from the SQL text of a search holds of a card and its note if every
word does. -/
theorem holds_iff_words_hold {tables : Tables}
    (hpredicate : Predicate.ofText today text = .ok predicate) {read : Expr}
    (hread : Expr.ofText? predicate.sql = some read) :
    holds tables predicate.parameters (cardFrame card note) read = true ↔
      ∀ word ∈ words text.toList, WordHolds Occurs today card note word := by
  obtain ⟨condition, hcondition, heval⟩ := of_text_condition hpredicate
  obtain rfl := Option.some.inj (hread.symm.trans hcondition)
  unfold holds
  rw [heval]
  exact (condition_decides hpredicate).counts_iff

/-- A selection finds the card if every word holds of the card and its note. -/
theorem mem_found_iff_words_hold {joined : Bool} (hnotes : database.notes = some notes)
    (hcards : database.cards = some cards)
    (hpredicate : Predicate.ofText today text = .ok predicate)
    (hjoined : joined = true ∨ predicate.mentions "n" = false) (hcard : card ∈ cards.rows)
    (hnote : note ∈ notes.rows) (hid : note.id = card.noteId) :
    card.id ∈ database.foundIds (Selection.ofPredicate predicate joined) ↔
      ∀ word ∈ words text.toList, WordHolds Occurs today card note word := by
  have hfind : notes.find? card.noteId = some note := Table.find?_eq_some_iff.2 ⟨hnote, hid⟩
  rw [mem_found_ids, finds_card hnotes hcards hpredicate hjoined hcard hfind]
  exact (condition_decides hpredicate).counts_iff

/-- The meaning of a search text. What is read from its SQL text holds of a card and its note if
every word of the text does. Words are compared with what patterns see of the texts, so with the
texts themselves where patterns see all of them. A query with the condition runs, unless it has too
many levels or a pattern is too long, and lists the cards of which it holds. -/
theorem text_selects (database : Database) (notes : Table StoredNote) (cards : Table Card)
    (today : Int) (text : String) (predicate : Predicate) (hshows : database.ShowsCards)
    (hnotes : database.notes = some notes) (hcards : database.cards = some cards)
    (hpredicate : Predicate.ofText today text = .ok predicate) :
    ∃ read, Expr.ofText? predicate.sql = some read ∧
      (∀ card note,
        (holds database.tables predicate.parameters (cardFrame card note) read = true ↔
          ∀ word ∈ words text.toList, WordHolds Occurs today card note word) ∧
        (IsPlain text.toList → IsPlainNote note →
          (holds database.tables predicate.parameters (cardFrame card note) read = true ↔
            ∀ word ∈ words text.toList, WordHolds Contains today card note word))) ∧
      ∀ joined, (joined = true ∨ predicate.mentions "n" = false) →
        (Selection.ofPredicate predicate joined).filter.height ≤ greatestHeight →
        (∀ value ∈ predicate.parameters, isLongPattern value = false) →
        ∃ ids, database.cardIds ⟨Selection.ofPredicate predicate joined, none⟩ = .ok ids ∧
          ∀ card ∈ cards.rows, ∀ note ∈ notes.rows, note.id = card.noteId →
            (card.id ∈ ids ↔
              holds database.tables predicate.parameters (cardFrame card note) read = true) := by
  obtain ⟨read, hread, -⟩ := of_text_condition hpredicate
  have hholds : ∀ card note,
      (holds database.tables predicate.parameters (cardFrame card note) read = true ↔
        ∀ word ∈ words text.toList, WordHolds Occurs today card note word) :=
    fun card note => holds_iff_words_hold hpredicate hread
  refine ⟨read, hread, fun card note => ⟨hholds card note, fun htext hplain =>
    (hholds card note).trans (words_hold_iff hplain htext)⟩, ?_⟩
  intro joined hjoined hheight hpatterns
  obtain ⟨ids, hids, hperm⟩ :=
    card_ids_of_text hshows hcards hnotes hpredicate hjoined hheight hpatterns
  refine ⟨ids, hids, fun card hcard note hnote hid => ?_⟩
  exact (hperm.mem_iff.trans (mem_found_iff_words_hold hnotes hcards hpredicate hjoined hcard
    hnote hid)).trans (hholds card note).symm

/-- A database with one note, whose only field is given, and one new card of it. -/
def oneCard (field : String) : Database where
  notes := some (Table.empty.insert
    { id := 10, typeId := 1, modified := 0, tags := "", fields := field, sortField := field })
  cards := some (Table.empty.insert { id := 1, noteId := 10 })

/-- A search for a value with a star, and against a state. -/
def starClauses : List Clause :=
  [⟨false, .text "R*N".toList⟩, ⟨true, .state .review⟩]

/-- A card is listed whose note contains the value in other letters. -/
theorem text_selects_star : ∃ ids,
    (oneCard "to run").cardIds
      ⟨Selection.ofPredicate (Predicate.ofClauses 0 starClauses) true, none⟩ = .ok ids ∧
    1 ∈ ids := by
  have hclauses : clauses "R*N -is:review".toList = .ok starClauses := rfl
  have hpredicate : Predicate.ofText 0 "R*N -is:review" =
      .ok (Predicate.ofClauses 0 starClauses) := of_text_eq_ok_iff.2 ⟨starClauses, hclauses, rfl⟩
  obtain ⟨read, -, hwords, hquery⟩ := text_selects (oneCard "to run") _ _ 0 "R*N -is:review" _
    ⟨rfl, rfl⟩ rfl rfl hpredicate
  obtain ⟨ids, hids, hlisted⟩ := hquery true (Or.inl rfl) (by decide) (by decide)
  refine ⟨ids, hids, (hlisted _ List.mem_cons_self _ List.mem_cons_self rfl).2 ?_⟩
  have htext : IsPlain "R*N -is:review".toList := by simp [IsPlain]
  have hfield : IsPlain "to run".toList := by simp [IsPlain]
  have htags : IsPlain "".toList := by simp [IsPlain]
  refine ((hwords _ _).2 htext ⟨hfield, hfield, htags⟩).2 ?_
  refine (clauses_hold (clauses_eq_ok_iff.1 hclauses).2).1 ?_
  have hfits : Fits "R*N".toList "run".toList :=
    .character (by decide) (by decide)
      (.star ['u'] (.character (by decide) (by decide) .nil))
  intro clause hmem
  rcases List.mem_cons.1 hmem with rfl | hmem
  · exact Or.inl ⟨"to ".toList, "run".toList, [], rfl, hfits⟩
  · rw [List.mem_singleton.1 hmem]
    exact (by decide : ¬ (0 : Int) = 2)

/-- A note with a NUL in its field contains what stands after the NUL, but patterns do not see it, so
its card is not listed. -/
theorem hidden_text_not_selected : ∃ notes cards predicate ids,
    (oneCard "a\x00b").notes = some notes ∧ (oneCard "a\x00b").cards = some cards ∧
    Predicate.ofText 0 "b" = .ok predicate ∧
    (oneCard "a\x00b").cardIds ⟨Selection.ofPredicate predicate true, none⟩ = .ok ids ∧
    ∃ card ∈ cards.rows, ∃ note ∈ notes.rows, note.id = card.noteId ∧
      (∀ word ∈ words "b".toList, WordHolds Contains 0 card note word) ∧ card.id ∉ ids := by
  have hclauses : clauses "b".toList = .ok [⟨false, .text ['b']⟩] := rfl
  have hpredicate : Predicate.ofText 0 "b" =
      .ok (Predicate.ofClauses 0 [⟨false, .text ['b']⟩]) :=
    of_text_eq_ok_iff.2 ⟨_, hclauses, rfl⟩
  have hwords := (clauses_eq_ok_iff.1 hclauses).2
  have hnotes : (oneCard "a\x00b").notes = some _ := rfl
  have hcards : (oneCard "a\x00b").cards = some _ := rfl
  obtain ⟨ids, hids, hperm⟩ := card_ids_of_text ⟨rfl, rfl⟩ hcards hnotes hpredicate
    (Or.inl rfl) (by decide) (by decide)
  refine ⟨_, _, _, ids, hnotes, hcards, hpredicate, hids, _, List.mem_cons_self, _,
    List.mem_cons_self, rfl, (clauses_hold hwords).1 ?_, fun hmem => ?_⟩
  · intro clause hmem
    rw [List.mem_singleton.1 hmem]
    exact Or.inl ⟨['a', '\x00'], ['b'], [], rfl, .character (by decide) rfl .nil⟩
  · have hfound := (mem_found_iff_words_hold hnotes hcards hpredicate (Or.inl rfl)
      List.mem_cons_self List.mem_cons_self rfl).1 (hperm.mem_iff.1 hmem)
    have hoccurs : Occurs ['b'] "a\x00b".toList :=
      ((clauses_hold hwords).2 hfound _ List.mem_cons_self).elim id id
    obtain ⟨before, part, after, hvisible, hfits, -⟩ := hoccurs
    obtain ⟨d, rest, rfl, hfold, -⟩ := (fits_character_iff (by decide)).1 hfits
    have hseen : d ∈ visible "a\x00b".toList := by
      rw [hvisible]
      simp
    have ha : visible "a\x00b".toList = ['a'] := rfl
    rw [ha, List.mem_singleton] at hseen
    subst hseen
    revert hfold
    decide

end CardBrowser.Search
