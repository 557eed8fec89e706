import Mathlib
import CardBrowser.Search.UniqueNotes
import CardBrowser.Store.Traced

/-!
# The first card of every note

Going through a list, the notes met before are those of the cards before, so a card is left out
exactly if one before it has its note: `first_of_note_eq_filter`. Which notes are left is said by
`mem_notes_first_of_note`, and a list in which no note comes twice stays as it is,
`first_of_note_eq_self`; a list of fewer than two cards is such a list, so it makes no difference
that its notes are not looked up. `notes_shown_once` has all of this.
-/

namespace CardBrowser.Search

variable {noteOf : Int → Option Int} {seen cards : List Int}

/-- A card at a place of a list has no note or is the first one of its note. -/
def StandsFirst (noteOf : Int → Option Int) (cards : List Int) (entry : Int × Nat) : Prop :=
  noteOf entry.1 = none ∨ ∀ earlier ∈ cards.take entry.2, noteOf earlier ≠ noteOf entry.1

instance : DecidablePred (StandsFirst noteOf cards) := fun _ =>
  inferInstanceAs (Decidable (_ ∨ _))

/-! ## Going through a list -/

/-- Notes are those of cards. -/
def AreNotes (noteOf : Int → Option Int) (notes cards : List Int) : Prop :=
  ∀ note, note ∈ notes ↔ ∃ card ∈ cards, noteOf card = some note

/-- No card, no note. -/
theorem are_notes_nil (noteOf : Int → Option Int) : AreNotes noteOf [] [] := by
  simp [AreNotes]

/-- The note of one more card is one more note, or it has been met before. -/
theorem AreNotes.append_card {notes before : List Int} {card : Int}
    (h : AreNotes noteOf seen before)
    (hnotes : ∀ note, note ∈ notes ↔ note ∈ seen ∨ noteOf card = some note) :
    AreNotes noteOf notes (before ++ [card]) := by
  intro note
  rw [hnotes, h note]
  simp only [List.mem_append, List.mem_singleton, or_and_right, exists_or, exists_eq_left]

/-- A card after others stands first if its note is not among theirs. -/
theorem AreNotes.stands_first_iff {before : List Int} (h : AreNotes noteOf seen before)
    (card : Int) (rest : List Int) :
    StandsFirst noteOf (before ++ card :: rest) (card, before.length) ↔
      ∀ note, noteOf card = some note → note ∉ seen := by
  unfold StandsFirst
  rw [List.take_left]
  cases hnote : noteOf card with
  | none => simp
  | some note => simp [h note]

/-- The cards left are those that stand first, if the notes met before are those of the cards
before. -/
theorem first_of_note_eq_filter {before : List Int} (rest : List Int)
    (hseen : AreNotes noteOf seen before) :
    firstOfNote noteOf seen rest =
      ((rest.zipIdx before.length).filter (StandsFirst noteOf (before ++ rest))).map Prod.fst := by
  induction rest generalizing seen before with
  | nil => rfl
  | cons card rest ih =>
      have hfirst := hseen.stands_first_iff card rest
      -- The cards after this one have it before them.
      have hrest : ∀ {notes : List Int},
          (∀ note, note ∈ notes ↔ note ∈ seen ∨ noteOf card = some note) →
          firstOfNote noteOf notes rest =
            ((rest.zipIdx (before.length + 1)).filter
              (StandsFirst noteOf (before ++ card :: rest))).map Prod.fst := by
        intro notes hnotes
        have hlater := ih (hseen.append_card hnotes)
        rwa [List.length_append, List.length_singleton, List.append_assoc,
          List.singleton_append] at hlater
      rw [List.zipIdx_cons]
      unfold firstOfNote
      cases hnote : noteOf card with
      | none =>
          have hsame : ∀ other, other ∈ seen ↔ other ∈ seen ∨ noteOf card = some other := by
            simp [hnote]
          rw [List.filter_cons_of_pos (by simpa [hnote] using hfirst), List.map_cons,
            ← hrest hsame]
      | some note =>
          by_cases hmem : note ∈ seen
          · have hagain : ∀ other, other ∈ seen ↔ other ∈ seen ∨ noteOf card = some other := by
              intro other
              rw [hnote, Option.some.injEq]
              exact ⟨Or.inl, fun h => h.elim id fun he => he ▸ hmem⟩
            rw [List.filter_cons_of_neg (by simpa [hnote, hmem] using hfirst), ← hrest hagain]
            simp [hmem]
          · have hnew : ∀ other, other ∈ note :: seen ↔
                other ∈ seen ∨ noteOf card = some other := by
              intro other
              rw [hnote, Option.some.injEq, List.mem_cons, or_comm, eq_comm]
            rw [List.filter_cons_of_pos (by simpa [hnote, hmem] using hfirst), List.map_cons,
              ← hrest hnew]
            simp [hmem]

/-- The notes left are those that have not been met before. -/
theorem mem_notes_first_of_note {note : Int} :
    note ∈ (firstOfNote noteOf seen cards).filterMap noteOf ↔
      note ∈ cards.filterMap noteOf ∧ note ∉ seen := by
  fun_induction firstOfNote noteOf seen cards with
  | case1 => simp
  | case2 seen card rest hnote ih => simpa [hnote] using ih
  | case3 seen card rest other hnote hseen ih =>
      rw [ih]
      simp only [List.filterMap_cons, hnote, List.mem_cons]
      grind
  | case4 seen card rest other hnote hseen ih =>
      simp only [List.filterMap_cons, hnote, List.mem_cons, ih]
      grind

/-- No note is left twice. -/
theorem notes_first_of_note_nodup (seen cards : List Int) :
    ((firstOfNote noteOf seen cards).filterMap noteOf).Nodup := by
  fun_induction firstOfNote noteOf seen cards with
  | case1 => simp
  | case2 seen card rest hnote ih => simpa [hnote] using ih
  | case3 seen card rest note hnote hseen ih => exact ih
  | case4 seen card rest note hnote hseen ih =>
      rw [List.filterMap_cons, hnote]
      refine List.nodup_cons.2 ⟨fun hmem => ?_, ih⟩
      exact (mem_notes_first_of_note.1 hmem).2 List.mem_cons_self

/-- The cards without a note are all left. -/
theorem first_of_note_unknown (seen cards : List Int) :
    (firstOfNote noteOf seen cards).filter (noteOf · = none) = cards.filter (noteOf · = none) := by
  fun_induction firstOfNote noteOf seen cards with
  | case1 => rfl
  | case2 seen card rest hnote ih => simp [hnote, ih]
  | case3 seen card rest note hnote hseen ih => simp [hnote, ih]
  | case4 seen card rest note hnote hseen ih => simp [hnote, ih]

/-- Cards no two of which have the same note, and none a note met before, are all left. -/
theorem first_of_note_eq_self (hnodup : (cards.filterMap noteOf).Nodup)
    (hnew : ∀ note ∈ cards.filterMap noteOf, note ∉ seen) :
    firstOfNote noteOf seen cards = cards := by
  fun_induction firstOfNote noteOf seen cards with
  | case1 => rfl
  | case2 seen card rest hnote ih =>
      rw [List.filterMap_cons, hnote] at hnodup hnew
      rw [ih hnodup hnew]
  | case3 seen card rest note hnote hseen ih =>
      rw [List.filterMap_cons, hnote] at hnew
      exact absurd (by simpa using hseen) (hnew note List.mem_cons_self)
  | case4 seen card rest note hnote hseen ih =>
      rw [List.filterMap_cons, hnote] at hnodup hnew
      obtain ⟨hnote', hnodup⟩ := List.nodup_cons.1 hnodup
      rw [ih hnodup fun other hmem => ?_]
      rw [List.mem_cons, not_or]
      refine ⟨?_, hnew other (List.mem_cons_of_mem _ hmem)⟩
      rintro rfl
      exact hnote' hmem

/-- A list of fewer than two cards, which has no note twice, stays as it is. -/
theorem unique_notes_of_short (noteOf : Int → Option Int) (h : cards.length < 2) :
    uniqueNotes noteOf cards = cards := by
  refine first_of_note_eq_self ?_ fun _ _ => List.not_mem_nil
  match cards, h with
  | [], _ => exact List.nodup_nil
  | [card], _ => cases hnote : noteOf card <;> simp [hnote]

/-! ## Filtering what a search lists -/

section Store

variable {σ : Type} [Store σ]

/-- The cards left by the notes that a store gives for them: all cards if it gives none. -/
def leftBy (answer : Except StoreError (List (Int × Int))) (cards : List Int) : List Int :=
  match answer with
  | .ok pairs => uniqueNotes (noteOf? pairs) cards
  | .error _ => cards

/-- If all cards are wanted or there are fewer than two, the store is not asked for their notes. -/
theorem filter_notes_unasked {wanted : Bool} (h : ¬ (wanted = true ∧ 2 ≤ cards.length))
    (store : σ) : filterNotes wanted cards store = (cards, store) := by
  have hquick : (!wanted || decide (cards.length < 2)) = true := by
    cases wanted with
    | false => rfl
    | true => simpa using h
  unfold filterNotes
  rw [if_pos hquick]

/-- If one card of every note is wanted and there are at least two cards, the store is asked for
their notes. -/
theorem filter_notes_asked (h : 2 ≤ cards.length) (store : σ) :
    filterNotes true cards store =
      (leftBy (Store.noteIds cards store).1 cards, (Store.noteIds cards store).2) := by
  have hslow : ¬ (!true || decide (cards.length < 2)) = true := by
    rw [Bool.not_true, Bool.false_or, decide_eq_true_iff]
    omega
  unfold filterNotes
  rw [if_neg hslow]
  rcases Store.noteIds cards store with ⟨_ | _, after⟩ <;> rfl

/-- What is left is decided by the notes that the store gives for the cards, even if there are fewer
than two cards, for which it is not asked. -/
theorem filter_notes_eq (wanted : Bool) (cards : List Int) (store : σ) :
    (filterNotes wanted cards store).1 =
      if wanted then leftBy (Store.noteIds cards store).1 cards else cards := by
  by_cases hasked : wanted = true ∧ 2 ≤ cards.length
  · obtain ⟨rfl, hlong⟩ := hasked
    rw [filter_notes_asked hlong, if_pos rfl]
  · rw [filter_notes_unasked hasked]
    cases wanted with
    | false => rfl
    | true =>
        have hshort : cards.length < 2 := by simpa using hasked
        unfold leftBy
        cases (Store.noteIds cards store).1 with
        | ok pairs => exact (unique_notes_of_short _ hshort).symm
        | error error => rfl

/-- The trace shows whether the store was asked. -/
theorem filter_notes_traced (wanted : Bool) (cards : List Int) (store : σ) (calls : List Call) :
    filterNotes wanted cards (⟨store, calls⟩ : Traced σ) =
      ((filterNotes wanted cards store).1,
        if wanted = true ∧ 2 ≤ cards.length then
          ⟨(Store.noteIds cards store).2, calls ++ [.noteIds cards]⟩
        else ⟨store, calls⟩) := by
  by_cases hasked : wanted = true ∧ 2 ≤ cards.length
  · rw [if_pos hasked]
    obtain ⟨rfl, hlong⟩ := hasked
    rw [filter_notes_asked hlong, filter_notes_asked hlong]
    rfl
  · rw [if_neg hasked, filter_notes_unasked hasked, filter_notes_unasked hasked]

/-- One card of every note. The cards left by a filter that knows the notes are, in their order,
those that have no note or are the first of theirs in the list. So no note is left twice, the notes
left are those of the list, the cards without a note are all left, and to filter once more changes
nothing. On any store, the cards of a search are filtered by the notes that it gives for them if that
is wanted, and stay as they are if it gives none. The store is asked for these notes once if there
are at least two cards, and otherwise not at all. -/
theorem notes_shown_once (noteOf : Int → Option Int) (wanted : Bool) (cards : List Int) (store : σ)
    (calls : List Call) :
    (uniqueNotes noteOf cards =
        (cards.zipIdx.filter (StandsFirst noteOf cards)).map Prod.fst ∧
      ((uniqueNotes noteOf cards).filterMap noteOf).Nodup ∧
      (∀ note, note ∈ (uniqueNotes noteOf cards).filterMap noteOf ↔ note ∈ cards.filterMap noteOf) ∧
      (uniqueNotes noteOf cards).filter (noteOf · = none) = cards.filter (noteOf · = none) ∧
      (uniqueNotes noteOf cards).Sublist cards ∧
      uniqueNotes noteOf (uniqueNotes noteOf cards) = uniqueNotes noteOf cards) ∧
    (filterNotes wanted cards store).1 =
      (if wanted then
        match (Store.noteIds cards store).1 with
        | .ok pairs => uniqueNotes (noteOf? pairs) cards
        | .error _ => cards
      else cards) ∧
    filterNotes wanted cards (⟨store, calls⟩ : Traced σ) =
      ((filterNotes wanted cards store).1,
        if wanted = true ∧ 2 ≤ cards.length then
          ⟨(Store.noteIds cards store).2, calls ++ [.noteIds cards]⟩
        else ⟨store, calls⟩) := by
  have hfirst : uniqueNotes noteOf cards =
      (cards.zipIdx.filter (StandsFirst noteOf cards)).map Prod.fst :=
    first_of_note_eq_filter cards (are_notes_nil noteOf)
  have hnodup : ((uniqueNotes noteOf cards).filterMap noteOf).Nodup :=
    notes_first_of_note_nodup [] cards
  refine ⟨⟨hfirst, hnodup, fun note => ?_, first_of_note_unknown [] cards, ?_, ?_⟩,
    filter_notes_eq wanted cards store, filter_notes_traced wanted cards store calls⟩
  · exact mem_notes_first_of_note.trans (and_iff_left List.not_mem_nil)
  · have hsub : ((cards.zipIdx.filter (StandsFirst noteOf cards)).map Prod.fst).Sublist
        (cards.zipIdx.map Prod.fst) := List.filter_sublist.map Prod.fst
    rwa [← hfirst, List.zipIdx_map_fst] at hsub
  · exact first_of_note_eq_self hnodup fun _ _ => List.not_mem_nil

end Store

-- Card 2 has the note of card 1; the note of card 9 is not known, so it is listed twice.
example : uniqueNotes (noteOf? [(1, 10), (2, 10)]) [1, 9, 2, 9] = [1, 9, 9] := by decide

end CardBrowser.Search
