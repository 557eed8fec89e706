import Mathlib
import CardBrowser.Database.Connection
import CardBrowser.Proofs.Database.Additions

/-!
# Cards that keep their notes

A card that is added takes the place of the one with its id before its note is looked for, so a card
without a note has to be taken out again and the earlier one put back. `replaceCard` goes through
these steps, and `replace_card_eq` says that they come to what `addCard` gives, and to no change at
all if that fails. In a database that has only grown every card has its note: `cards_keep_notes`.
-/

namespace CardBrowser.Database

/-! ## Taking rows out and putting them back -/

namespace Table

variable {α : Type} [Identified α]

/-- The table with a row again that was taken out, if there was one. -/
def putBack (table : Table α) : Option α → Table α
  | some row => table.insert row
  | none => table

/-- Only the rows of other ids matter for a table that is given a row. -/
theorem insert_erase (table : Table α) (row : α) :
    (table.erase (Identified.id row)).insert row = table.insert row := by
  refine eq_of_mem_iff fun other => ?_
  rw [mem_insert, mem_insert, mem_erase, and_assoc, and_self]

/-- A row that was put into a table does not show once its id is taken out. -/
theorem erase_insert (table : Table α) (row : α) :
    (table.insert row).erase (Identified.id row) = table.erase (Identified.id row) := by
  refine eq_of_mem_iff fun other => ?_
  rw [mem_erase, mem_erase, mem_insert]
  constructor
  · rintro ⟨rfl | h, hne⟩
    · exact absurd rfl hne
    · exact h
  · exact fun h => ⟨Or.inr h, h.2⟩

/-- A table is as it was when the row that was taken out is put back. -/
theorem put_back_erase (table : Table α) (id : Int) :
    (table.erase id).putBack (table.find? id) = table := by
  refine eq_of_mem_iff fun row => ?_
  cases hfound : table.find? id with
  | none =>
      have hmissing : row ∈ table.rows → Identified.id row ≠ id := by
        rintro hmem rfl
        rw [find?_eq_some_iff.2 ⟨hmem, rfl⟩] at hfound
        cases hfound
      exact mem_erase.trans (and_iff_left_of_imp hmissing)
  | some old =>
      obtain ⟨hold, rfl⟩ := find?_eq_some_iff.1 hfound
      have honly : row ∈ table.rows → Identified.id row = Identified.id old → row = old := by
        intro hmem hid
        have hsame := find?_eq_some_iff.2 ⟨hmem, hid⟩
        exact Option.some.inj (hsame.symm.trans hfound)
      show row ∈ ((table.erase (Identified.id old)).insert old).rows ↔ _
      rw [insert_erase, mem_insert]
      constructor
      · rintro (rfl | ⟨hmem, -⟩)
        · exact hold
        · exact hmem
      · intro hmem
        by_cases hid : Identified.id row = Identified.id old
        · exact Or.inl (honly hmem hid)
        · exact Or.inr ⟨hmem, hid⟩

end Table

/-! ## Adding a card step by step -/

/-- Adds a card in the order in which it is done: the card that has its id goes, the card comes, and
then its note is looked for. If that is missing, the card goes again and the one that was there
comes back. -/
def replaceCard (database : Database) (card : Card) : Except Fault Unit × Database :=
  match database.cards, database.acceptsNote with
  | none, _ => (.error (.noSuchTable "cards"), database)
  | some _, .error fault => (.error fault, database)
  | some cards, .ok accepts =>
    let replaced := (cards.erase card.id).insert card
    if accepts card.noteId then (.ok (), { database with cards := some replaced })
    else
      let restored := (replaced.erase card.id).putBack (cards.find? card.id)
      (.error .foreignKey, { database with cards := some restored })

/-- Step by step a database becomes what `addCard` gives, and is as it was before if that fails. -/
theorem replace_card_eq (database : Database) (card : Card) :
    database.replaceCard card =
      ((database.addCard card).map fun _ => (), (Addition.card card).next database) := by
  have hnext : (Addition.card card).next database =
      (database.addCard card).toOption.getD database := rfl
  rw [hnext]
  unfold replaceCard
  cases hcards : database.cards with
  | none =>
      unfold addCard
      rw [hcards]
      rfl
  | some cards =>
      cases haccepts : database.acceptsNote with
      | error fault =>
          unfold addCard
          rw [hcards, haccepts]
          rfl
      | ok accepts =>
          have hreplaced : (cards.erase card.id).insert card = cards.insert card :=
            Table.insert_erase cards card
          have hgone : (cards.insert card).erase card.id = cards.erase card.id :=
            Table.erase_insert cards card
          have hsame : { database with cards := some cards } = database := by
            rw [← hcards]
          rw [add_card_eq hcards haccepts]
          simp only [hreplaced, hgone, Table.put_back_erase, hsame]
          cases accepts card.noteId <;> rfl

/-! ## Databases that have only grown -/

/-- A new store holds the empty database, wherever it lives. -/
theorem database_of_open {location : Location} {config : ConnectionConfig}
    {connection : Connection} (h : Connection.open? location config {} = .ok connection) :
    connection.database = {} := by
  cases location with
  | memory =>
      cases h
      rfl
  | file =>
      cases h
      rfl
  | unopenable path => cases h

/-- Cards keep their notes. After note types, notes and cards have been added to a new store, each
call succeeding or failing, every card has its note, and no two notes and no two cards have the same
id. A further card is added exactly if its note is there. If it is refused, that is because of its
note, and everything is as it was before, even if the card with its id had to go for it: the single
steps end at the same database. -/
theorem cards_keep_notes (location : Location) (connection : Connection) (created : Database)
    (additions : List Addition) (hopen : Connection.open? location {} {} = .ok connection)
    (hcreated : connection.database.createSchema = .ok created) :
    ∃ notes cards, (created.grow additions).notes = some notes ∧
      (created.grow additions).cards = some cards ∧
      (∀ card ∈ cards.rows, ∃ note ∈ notes.rows, note.id = card.noteId) ∧
      (notes.rows.map (·.id)).Nodup ∧ (cards.rows.map (·.id)).Nodup ∧
      ∀ card : Card,
        ((∃ next, (created.grow additions).addCard card = .ok next) ↔
          ∃ note ∈ notes.rows, note.id = card.noteId) ∧
        (∀ fault, (created.grow additions).addCard card = .error fault →
          fault = .foreignKey ∧ created.grow (additions ++ [.card card]) = created.grow additions) ∧
        (created.grow additions).replaceCard card =
          (((created.grow additions).addCard card).map fun _ => (),
            created.grow (additions ++ [.card card])) := by
  rw [database_of_open hopen] at hcreated
  obtain ⟨notes, cards, h⟩ := consistent_grow (consistent_create hcreated) additions
  refine ⟨notes, cards, h.hasNotes, h.hasCards, fun card hmem => ?_, Table.ids_nodup notes,
    Table.ids_nodup cards, fun card => ?_⟩
  · exact Table.contains_iff.1 (h.noted card hmem)
  · have hgrow : created.grow (additions ++ [.card card]) =
        (Addition.card card).next (created.grow additions) := List.foldl_append
    rw [hgrow]
    have hstored : notes.contains card.noteId = true ↔ ∃ note ∈ notes.rows, note.id = card.noteId :=
      Table.contains_iff
    refine ⟨?_, fun fault hfault => ?_, replace_card_eq _ card⟩
    · rw [add_card_consistent h, ← hstored]
      cases notes.contains card.noteId <;> simp
    · refine ⟨?_, next_of_error hfault⟩
      rw [add_card_consistent h] at hfault
      split at hfault
      · cases hfault
      · exact (Except.error.inj hfault).symm

/-- A note and a card of it. -/
def cardWithNote : List Addition :=
  [.note { id := 10, typeId := 1, fields := [], sortField := "" },
   .card { id := 1, noteId := 10, due := 5 }]

/-- A card without a note. It has the id of the one that has a note. -/
def cardWithoutNote : Card where
  id := 1
  noteId := 11

/-- The card without a note is refused. The steps end where they began, so the card that had gone
for it is there again. -/
theorem cards_keep_notes_refused : ∃ connection created,
    Connection.open? .memory {} {} = .ok connection ∧
    connection.database.createSchema = .ok created ∧
    (created.grow cardWithNote).addCard cardWithoutNote = .error .foreignKey ∧
    (created.grow cardWithNote).replaceCard cardWithoutNote =
      (.error .foreignKey, created.grow cardWithNote) ∧
    (created.grow cardWithNote).card? 1 = .ok (some { id := 1, noteId := 10, due := 5 }) := by
  obtain ⟨notes, cards, -, -, -, -, -, hcard⟩ :=
    cards_keep_notes .memory _ _ cardWithNote rfl rfl
  obtain ⟨-, hrefused, hsteps⟩ := hcard cardWithoutNote
  refine ⟨_, _, rfl, rfl, rfl, ?_, rfl⟩
  rw [hsteps, (hrefused .foreignKey rfl).2]
  rfl

end CardBrowser.Database
