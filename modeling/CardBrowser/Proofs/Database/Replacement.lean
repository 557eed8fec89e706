import Mathlib
import CardBrowser.Proofs.Database.Additions

/-!
# A note in place of another one

Adding a note leaves alone every note type, every other note and every card of another note. A note
that takes the place of an earlier one takes its cards away, though, since the earlier note is
removed first and foreign keys are watched: `add_note_grown` says what becomes of every row, and
when no card is lost.
-/

namespace CardBrowser.Database

/-! ## Rows after a change -/

namespace Table

variable {α : Type} [Identified α]

/-- After a row has been put into a table, it is found by its id and the others by theirs. -/
theorem find?_insert (table : Table α) (row : α) (id : Int) :
    (table.insert row).find? id = if id = Identified.id row then some row else table.find? id := by
  refine Option.ext fun other => ?_
  rw [find?_eq_some_iff, mem_insert]
  split
  · rename_i hid
    rw [hid, Option.some.injEq]
    constructor
    · intro h
      obtain ⟨rfl | ⟨-, hne⟩, hother⟩ := h
      · rfl
      · exact absurd hother hne
    · rintro rfl
      exact ⟨Or.inl rfl, rfl⟩
  · rename_i hid
    rw [find?_eq_some_iff]
    constructor
    · intro h
      obtain ⟨rfl | ⟨hmem, -⟩, hother⟩ := h
      · exact absurd hother.symm hid
      · exact ⟨hmem, hother⟩
    · intro h
      obtain ⟨hmem, rfl⟩ := h
      exact ⟨Or.inr ⟨hmem, hid⟩, rfl⟩

/-- Among the rows that satisfy a condition, a row is found if it is found at all and satisfies it. -/
theorem find?_filter (table : Table α) (keep : α → Bool) (id : Int) :
    (table.filter keep).find? id = (table.find? id).filter keep := by
  refine Option.ext fun row => ?_
  rw [find?_eq_some_iff, Option.filter_eq_some_iff, find?_eq_some_iff]
  show row ∈ table.rows.filter keep ∧ _ ↔ _
  rw [List.mem_filter]
  exact and_right_comm

end Table

/-! ## Notes that are added -/

/-- A note that is added to a database which has only grown is stored, and every note type, every
other note and every card of another note stays as it was. The cards of the note itself are gone, so
all cards are kept exactly if none of them belongs to it. -/
theorem add_note_grown (created : Database) (additions : List Addition) (note : Note)
    (hcreated : createSchema {} = .ok created) :
    ∃ next, (created.grow additions).addNote note = .ok next ∧
      next.noteTypes = (created.grow additions).noteTypes ∧
      (∀ id, next.storedNote? id =
        if id = note.id then .ok (some note.stored) else (created.grow additions).storedNote? id) ∧
      (∀ id, next.card? id =
        ((created.grow additions).card? id).map (·.filter (·.noteId != note.id))) ∧
      ((∀ id, next.card? id = (created.grow additions).card? id) ↔
        ∀ id card, (created.grow additions).card? id = .ok (some card) →
          card.noteId ≠ note.id) := by
  obtain ⟨notes, cards, h⟩ := consistent_grow (consistent_create hcreated) additions
  refine ⟨_, add_note_consistent h note, rfl, fun id => ?_, ?_⟩
  · show Except.ok ((notes.insert note.stored).find? id) = _
    unfold storedNote?
    rw [h.hasNotes, Table.find?_insert]
    exact apply_ite Except.ok _ _ _
  · have hcard : ∀ id, Except.ok ((cards.filter (·.noteId != note.id)).find? id) =
        ((created.grow additions).card? id).map (·.filter (·.noteId != note.id)) := by
      intro id
      unfold card?
      rw [h.hasCards, Table.find?_filter]
      rfl
    refine ⟨hcard, ?_⟩
    show (∀ id, Except.ok ((cards.filter (·.noteId != note.id)).find? id) = _) ↔ _
    refine forall_congr' fun id => ?_
    unfold card?
    rw [h.hasCards, Table.find?_filter]
    show Except.ok ((cards.find? id).filter _) = Except.ok (cards.find? id) ↔
      ∀ card, Except.ok (cards.find? id) = Except.ok (some card) → _
    cases cards.find? id with
    | none => simp
    | some card => simp [Option.filter_some]

/-- A note without fields. -/
def bareNote : Note where
  id := 10
  typeId := 1
  modified := 0
  tags := ""
  fields := []
  sortField := ""

/-- A note is added to a new database. -/
theorem add_note_grown_bare : ∃ created next, createSchema {} = .ok created ∧
    (created.grow []).addNote bareNote = .ok next ∧
    next.storedNote? 10 = .ok (some bareNote.stored) := by
  obtain ⟨created, hcreated⟩ : ∃ created, createSchema {} = .ok created := ⟨_, rfl⟩
  obtain ⟨next, hadd, -, hnotes, -, -⟩ := add_note_grown created [] bareNote hcreated
  exact ⟨created, next, hcreated, hadd, hnotes 10⟩

/-- A card is gone after its note has been added again. -/
theorem add_note_again_drops_card : ∃ created next card, createSchema {} = .ok created ∧
    (created.grow [.note bareNote, .card card]).card? 1 = .ok (some card) ∧
    (created.grow [.note bareNote, .card card]).addNote bareNote = .ok next ∧
    next.card? 1 = .ok none :=
  ⟨_, _, { id := 1, noteId := 10 }, rfl, rfl, rfl, rfl⟩

end CardBrowser.Database
