import CardBrowser.Store.Basic

/-!
# One card of every note

A browser can show one card of every note, the first one that a search lists. Cards whose note is
not known are all kept.
-/

namespace CardBrowser.Search

/-- The note of a card in a list of pairs, in which a later pair of a card prevails. -/
def noteOf? (pairs : List (Int × Int)) (card : Int) : Option Int :=
  pairs.foldl (fun found pair => if pair.1 = card then some pair.2 else found) none

/-- The cards that are the first of their note, where `seen` are the notes met before, and the
cards without a note. -/
def firstOfNote (noteOf : Int → Option Int) (seen : List Int) : List Int → List Int
  | [] => []
  | card :: rest =>
    match noteOf card with
    | none => card :: firstOfNote noteOf seen rest
    | some note =>
      if seen.contains note then firstOfNote noteOf seen rest
      else card :: firstOfNote noteOf (note :: seen) rest

/-- The cards that are the first of their note in the list, and the cards without a note. -/
def uniqueNotes (noteOf : Int → Option Int) (cards : List Int) : List Int :=
  firstOfNote noteOf [] cards

/-- Leaves one card of every note if that is wanted. A list of fewer than two cards needs no
look-up, and if the look-up fails the list stays as it is. -/
def filterNotes {σ : Type} [Store σ] (wanted : Bool) (cards : List Int) (store : σ) :
    List Int × σ :=
  if !wanted || cards.length < 2 then (cards, store)
  else
    match Store.noteIds cards store with
    | (.ok pairs, store) => (uniqueNotes (noteOf? pairs) cards, store)
    | (.error _, store) => (cards, store)

end CardBrowser.Search
