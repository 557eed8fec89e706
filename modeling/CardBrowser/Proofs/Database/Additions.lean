import Mathlib
import CardBrowser.Proofs.Database.Contents
import CardBrowser.Proofs.Outcome

/-!
# Databases that have only grown

A new database has no cards, and whatever is added to it, every card in it has its note: adding a
card needs the note, and a note that takes the place of another one takes the cards with it.
`consistent_next` is the step and `consistent_grow` the run.
-/

namespace CardBrowser.Database

/-- What is added to a database. -/
inductive Addition where
  | noteType (id : Int) (name : String) (fields : List Field)
  | note (added : Note)
  | card (added : Card)

/-- The database with an addition, or the fault. -/
def Addition.add (database : Database) : Addition → Except Fault Database
  | noteType id name fields => database.addNoteType id name fields
  | note added => database.addNote added
  | card added => database.addCard added

/-- The database after an addition; one that fails changes nothing. -/
def Addition.next (database : Database) (addition : Addition) : Database :=
  (addition.add database).toOption.getD database

/-- An addition that fails changes nothing. -/
theorem next_of_error {database : Database} {addition : Addition} {fault : Fault}
    (h : addition.add database = .error fault) : addition.next database = database := by
  unfold Addition.next
  rw [h]
  rfl

/-- The database after additions one after the other. -/
def grow (database : Database) (additions : List Addition) : Database :=
  additions.foldl Addition.next database

/-- The tables of notes and cards are there and watched, every card has its note, and nothing else
is known by their names. -/
structure Consistent (database : Database) (notes : Table StoredNote) (cards : Table Card) :
    Prop where
  hasNotes : database.notes = some notes
  hasCards : database.cards = some cards
  noted : ∀ card ∈ cards.rows, notes.contains card.noteId = true
  temporary : database.temporary = []
  foreignKeys : database.foreignKeys = true

/-- The notes that cards may have in a consistent database are those that are there. -/
theorem Consistent.accepts_note {database : Database} {notes : Table StoredNote}
    {cards : Table Card} (h : database.Consistent notes cards) :
    database.acceptsNote = .ok fun note => notes.contains note := by
  unfold acceptsNote
  rw [if_pos h.foreignKeys, h.hasNotes]
  rfl

/-- A new database is consistent. -/
theorem consistent_create {created : Database} (h : createSchema {} = .ok created) :
    created.Consistent Table.empty Table.empty := by
  cases h
  exact ⟨rfl, rfl, fun _ hmem => absurd hmem List.not_mem_nil, rfl, rfl⟩

variable {database : Database} {notes : Table StoredNote} {cards : Table Card}

/-- A card is added in place of the one with its id if its note is accepted, and otherwise it is
refused. -/
theorem add_card_eq {accepts : Int → Bool} (hcards : database.cards = some cards)
    (haccepts : database.acceptsNote = .ok accepts) (card : Card) :
    database.addCard card =
      if accepts card.noteId then .ok { database with cards := some (cards.insert card) }
      else .error .foreignKey := by
  unfold addCard
  rw [hcards, haccepts]
  rfl

/-- In a consistent database the notes that are there are accepted. -/
theorem add_card_consistent (h : database.Consistent notes cards) (card : Card) :
    database.addCard card =
      if notes.contains card.noteId then .ok { database with cards := some (cards.insert card) }
      else .error .foreignKey :=
  add_card_eq h.hasCards h.accepts_note card

/-- Adding a note to a consistent database succeeds. No card of the note is left, and nothing else
has changed but the note. -/
theorem add_note_consistent (h : database.Consistent notes cards) (note : Note) :
    database.addNote note = .ok { database with
      notes := some (notes.insert note.stored)
      cards := some (cards.filter (·.noteId != note.id)) } := by
  have hcards : (if notes.contains note.id then database.cardsWithout note.id else database.cards) =
      some (cards.filter (·.noteId != note.id)) := by
    unfold cardsWithout
    rw [if_pos h.foreignKeys, h.hasCards]
    split
    · rfl
    · -- No card has a note that is not there, so none is left out.
      rename_i hnew
      have hall : cards.rows.filter (·.noteId != note.id) = cards.rows := by
        refine List.filter_eq_self.2 fun card hmem => ?_
        have hnoted := h.noted card hmem
        by_cases hid : card.noteId = note.id
        · rw [hid] at hnoted
          exact absurd hnoted hnew
        · exact bne_iff_ne.2 hid
      exact congrArg some (Table.eq_of_mem_iff fun card => by
        show _ ↔ card ∈ cards.rows.filter _
        rw [hall])
  unfold addNote
  rw [h.hasNotes]
  show Except.ok _ = _
  rw [hcards]

/-- An addition keeps a database consistent. -/
theorem consistent_next (h : database.Consistent notes cards) (addition : Addition) :
    ∃ notes cards, (addition.next database).Consistent notes cards := by
  unfold Addition.next
  cases hadd : addition.add database with
  | error fault => exact ⟨notes, cards, h⟩
  | ok next =>
      show ∃ notes cards, next.Consistent notes cards
      cases addition with
      | noteType id name fields =>
          obtain ⟨noteTypes, -, hnext⟩ := Except.bind_eq_ok_iff.1 hadd
          cases hnext
          exact ⟨notes, cards, h.hasNotes, h.hasCards, h.noted, h.temporary, h.foreignKeys⟩
      | note added =>
          have hadded := (add_note_consistent h added).symm.trans hadd
          cases hadded
          refine ⟨notes.insert added.stored, cards.filter (·.noteId != added.id), rfl, rfl, ?_,
            h.temporary, h.foreignKeys⟩
          intro card hmem
          exact Table.contains_insert.2 (Or.inr (h.noted card (List.mem_filter.1 hmem).1))
      | card added =>
          have hadded := (add_card_consistent h added).symm.trans hadd
          split at hadded
          · rename_i hnoted
            cases hadded
            refine ⟨notes, cards.insert added, h.hasNotes, rfl, ?_, h.temporary, h.foreignKeys⟩
            intro card hmem
            rcases Table.mem_insert.1 hmem with rfl | ⟨hmem, -⟩
            · exact hnoted
            · exact h.noted card hmem
          · cases hadded

/-- Additions keep a database consistent. -/
theorem consistent_grow (h : database.Consistent notes cards) (additions : List Addition) :
    ∃ notes cards, (database.grow additions).Consistent notes cards := by
  induction additions generalizing database notes cards with
  | nil => exact ⟨notes, cards, h⟩
  | cons addition additions ih =>
      obtain ⟨notes, cards, hnext⟩ := consistent_next h addition
      exact ih hnext

end CardBrowser.Database
