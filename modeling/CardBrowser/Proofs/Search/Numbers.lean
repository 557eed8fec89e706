import Mathlib
import CardBrowser.Proofs.Number.Rounding
import CardBrowser.Proofs.Search.Accepted
import CardBrowser.Proofs.Search.Ordering
import CardBrowser.Proofs.Search.Strategy
import CardBrowser.Proofs.Sql.Lexing
import CardBrowser.Proofs.Text.Numerals

/-!
# Whole numbers as sort values

A whole number that is not negative is written in digits, so it is put in order by the
floating-point number nearest to it; a negative one is not. `sortedAs` is what it counts as, and by
`rank_key_integer_lt_iff` nothing else decides but the id. The order of the numbers is kept
(`sorted_as_mono`), though numbers beyond `2^53` may count as the same. `ascends_by_number_iff` says
when a list in one of the two orders is in the other.
-/

namespace CardBrowser.Search

open CardBrowser.Database CardBrowser.Sql

/-! ## What a whole number counts as -/

/-- What a whole number counts as among sort values: itself if it is negative, and otherwise the
floating-point number nearest to it. -/
def sortedAs (n : Int) : Rat :=
  if n < 0 then n else (Binary64.ofInt n).toRat?.getD 0

variable {m n id other : Int}

/-- A natural number counts as what is left of it in 53 bits. -/
theorem sorted_as_natural {n : Nat} (h : n < 2 ^ 64) :
    sortedAs n = (Binary64.significant n : Rat) := by
  unfold sortedAs
  rw [if_neg (by omega), Binary64.to_rat_of_nat h, Option.getD_some]

/-- A whole number of 64 bits is negative or such a natural number. -/
theorem negative_or_natural (h : Text.isInt64 n = true) :
    n < 0 ∨ ∃ k : Nat, n = k ∧ k < 2 ^ 64 := by
  obtain ⟨-, hlt⟩ := Text.is_int64_iff.1 h
  rcases lt_or_ge n 0 with hneg | hnat
  · exact Or.inl hneg
  · exact Or.inr ⟨n.toNat, (Int.toNat_of_nonneg hnat).symm, by omega⟩

/-- The order of whole numbers of 64 bits is kept. -/
theorem sorted_as_mono (hm : Text.isInt64 m = true) (hn : Text.isInt64 n = true) (h : m ≤ n) :
    sortedAs m ≤ sortedAs n := by
  rcases negative_or_natural hn with hneg | ⟨k, rfl, hk⟩
  · unfold sortedAs
    rw [if_pos hneg, if_pos (by omega)]
    exact Int.cast_le.2 h
  · rw [sorted_as_natural hk]
    rcases negative_or_natural hm with hneg | ⟨l, rfl, hl⟩
    · unfold sortedAs
      rw [if_pos hneg]
      exact (Int.cast_lt_zero.2 hneg).le.trans (Nat.cast_nonneg _)
    · rw [sorted_as_natural hl]
      exact Nat.cast_le.2 (Binary64.significant_mono (Int.ofNat_le.1 h))

/-- A whole number up to `2^53` counts as itself. -/
theorem sorted_as_of_le (h : n ≤ 2 ^ 53) : sortedAs n = n := by
  rcases lt_or_ge n 0 with hneg | hnat
  · exact if_pos hneg
  · obtain ⟨k, rfl⟩ := Int.eq_ofNat_of_zero_le hnat
    have hk : k ≤ 2 ^ 53 := by omega
    rw [sorted_as_natural (by omega), Binary64.significant_of_le hk]
    rfl

/-! ## Keys of whole numbers -/

/-- Only a whole number that is not negative is written in digits alone. -/
theorem writes_number_integer (n : Int) :
    writesNumber beforeNul (toString n) = decide (0 ≤ n) := by
  rw [Int.toString_eq_repr, Int.repr_eq_if]
  unfold writesNumber beforeNul
  split_ifs with hsign
  · rw [decide_eq_true hsign, Nat.toList_repr, List.all_eq_true]
    intro c hmem
    have hdigit := Text.digits_of_natural n.toNat c ((List.takeWhile_prefix _).mem hmem)
    rw [hdigit, Bool.true_or]
  · rw [decide_eq_false hsign, String.toList_append]
    rfl

/-- The place of a finite number is its value. -/
theorem place_of_to_rat {x : Binary64} {q : Rat} (h : x.toRat? = some q) :
    Value.place x = (0, q) := by
  cases x with
  | finite negative significand exponent =>
      show (0, (Binary64.finite negative significand exponent).toRat?.getD 0) = (0, q)
      rw [h, Option.getD_some]
  | infinite negative => cases h
  | notANumber => cases h

/-- The key of a whole number: it is not blank, a finite number, and no text. -/
theorem rank_key_integer (h : Text.isInt64 n = true) (id : Int) :
    rankKey beforeNul (.integer n) id =
      toLex (0, toLex (toLex (1, toLex (toLex (0, sortedAs n), toLex ([], 0))), id)) := by
  have hwrites : (Value.integer n).asText?.any (writesNumber beforeNul) = decide (0 ≤ n) :=
    writes_number_integer n
  suffices hplace : (rankedValue beforeNul (.integer n)).orderKey beforeNul =
      toLex (1, toLex (toLex (0, sortedAs n), toLex ([], 0))) by
    unfold rankKey
    rw [hplace]
    rfl
  unfold rankedValue
  rw [hwrites]
  rcases negative_or_natural h with hneg | ⟨k, rfl, hk⟩
  · unfold sortedAs
    rw [if_pos hneg, if_neg (by simpa using hneg)]
    rfl
  · rw [if_pos (by simp)]
    rw [sorted_as_natural hk]
    show toLex (1, toLex (toLex (Value.place (Binary64.ofInt k)), toLex ([], 0))) = _
    rw [place_of_to_rat (Binary64.to_rat_of_nat hk)]

/-- Whole numbers come in the order of what they count as, and then of ids. -/
theorem rank_key_integer_lt_iff (hm : Text.isInt64 m = true) (hn : Text.isInt64 n = true) :
    rankKey beforeNul (.integer m) id < rankKey beforeNul (.integer n) other ↔
      sortedAs m < sortedAs n ∨ sortedAs m = sortedAs n ∧ id < other := by
  rw [rank_key_integer hm, rank_key_integer hn]
  simp only [Prod.Lex.toLex_lt_toLex, lt_irrefl, false_or, true_and, and_false, or_false,
    toLex_inj, Prod.mk.injEq, and_true]

/-! ## Columns of cards -/

/-- The columns of cards and the numbers in them. -/
def cardNumbers : List (String × (Card → Int)) :=
  [("id", Card.id), ("nid", Card.noteId), ("did", Card.deckId), ("ord", Card.ordinal),
   ("mod", Card.modified), ("type", Card.type), ("queue", Card.queue), ("due", Card.due),
   ("ivl", Card.interval), ("factor", Card.factor), ("reps", Card.reps), ("lapses", Card.lapses)]

/-- A card has these columns and no others. -/
theorem row_eq (card : Card) :
    card.row = cardNumbers.map fun column => (column.1, .integer (column.2 card)) := rfl

/-- The expression for a column is read as that column. -/
theorem read_card_column : ∀ name ∈ cardNumbers.map Prod.fst,
    Expr.ofText? ("c." ++ name) = some (.column (some "c") name) := by
  decide

variable {database : Database} {cards : Table Card} {selection : Selection} {card : Card}
  {column : String × (Card → Int)} {ids : List Int}

/-- The sort value of a card that is found is the number in the column. -/
theorem sort_value_of_card (hcolumn : column ∈ cardNumbers) (hcards : database.cards = some cards)
    (hcard : card ∈ cards.rows) (hfinds : database.finds selection card.id = true) :
    database.sortValue selection (.column (some "c") column.1) card.id =
      .integer (column.2 card) := by
  have hvalue : (column.1, Value.integer (column.2 card)) ∈ card.row := by
    rw [row_eq]
    exact List.mem_map.2 ⟨column, hcolumn, rfl⟩
  have hnames : sameName "c" "c" = true ∧ sameName "n" "c" = false := by decide
  unfold finds at hfinds
  unfold sortValue
  cases hframe : database.frameOf? selection.joined card.id with
  | none => simp [hframe] at hfinds
  | some frame =>
      have hrow : (frame.filter fun entry => sameName entry.1 "c") = [("c", card.row)] := by
        rw [frame_of_card hcards hcard] at hframe
        split at hframe
        · obtain ⟨note, -, rfl⟩ := Option.map_eq_some_iff.1 hframe
          simp [hnames]
        · cases hframe
          simp [hnames]
      rw [Option.elim_some]
      exact Expr.eval_of_resolve (resolve_of_mem hrow (card_names card) hvalue)

/-! ## Listings -/

/-- Whether a card comes before another by a number, and by its id where that number is the same. -/
def Precedes {α : Type} [LT α] (number : Card → α) (card other : Card) : Prop :=
  number card < number other ∨ number card = number other ∧ card.id < other.id

/-- Of two cards only one comes before the other. -/
theorem Precedes.asymm {α : Type} [Preorder α] {number : Card → α} {card other : Card}
    (h : Precedes number card other) : ¬ Precedes number other card := by
  rcases h with hlt | ⟨heq, hid⟩
  · rintro (hgt | ⟨heq, -⟩)
    · exact lt_asymm hlt hgt
    · exact absurd hlt heq.not_gt
  · rintro (hgt | ⟨-, hlt⟩)
    · exact absurd hgt heq.not_gt
    · exact lt_asymm hid hlt

/-- A list of cards is in ascending order of a number, and of ids where that number is the same. -/
def AscendsBy {α : Type} [LT α] (number : Card → α) (listed : List Card) : Prop :=
  listed.Pairwise (Precedes number)

/-- A list that is in the order of two numbers puts two cards in the same order by both. -/
theorem AscendsBy.precedes {α β : Type} [Preorder α] [LT β] {number : Card → α}
    {mark : Card → β} {listed : List Card} (h : AscendsBy number listed)
    (hmark : AscendsBy mark listed) {card other : Card} (hcard : card ∈ listed)
    (hother : other ∈ listed) (hbefore : Precedes number card other) :
    Precedes mark card other := by
  have hne : card ≠ other := by
    rintro rfl
    exact hbefore.asymm hbefore
  -- One of the two stands first in the list, and `number` says which.
  let before := fun first second => Precedes number first second ∧ Precedes mark first second
  have hsymmetric : Std.Symm fun first second => before first second ∨ before second first :=
    ⟨fun _ _ => Or.symm⟩
  have hpairs : listed.Pairwise fun first second => before first second ∨ before second first :=
    (h.and hmark).imp Or.inl
  rcases hpairs.forall hcard hother hne with ⟨-, hmark⟩ | ⟨hafter, -⟩
  · exact hmark
  · exact absurd hafter hbefore.asymm

/-- Cards that are listed by a column are in the order of what their numbers count as. -/
theorem listing_by_number (hcolumn : column ∈ cardNumbers) (hcards : database.cards = some cards)
    (hrange : ∀ card ∈ cards.rows, Text.isInt64 (column.2 card) = true)
    (hlisting : IsListing (database.finds selection)
      (cardKey beforeNul database selection (.column (some "c") column.1)) ids) :
    ∃ listed : List Card, ids = listed.map (·.id) ∧
      (∀ card, card ∈ listed ↔ card ∈ cards.rows ∧ database.finds selection card.id = true) ∧
      AscendsBy (fun card => sortedAs (column.2 card)) listed := by
  have hstored : ∀ id ∈ ids, ∃ card, cards.find? id = some card := by
    intro id hid
    have hmem : id ∈ database.storedIds :=
      List.mem_of_mem_filter (mem_found_ids.2 ((hlisting.complete id).1 hid))
    unfold storedIds at hmem
    rw [hcards] at hmem
    obtain ⟨card, hcard, hid⟩ := List.mem_map.1 hmem
    exact ⟨card, Table.find?_eq_some_iff.2 ⟨hcard, hid⟩⟩
  have hids : ids = (ids.filterMap cards.find?).map (·.id) := by
    rw [List.map_filterMap]
    refine (List.filterMap_some.symm.trans (List.filterMap_congr fun id hid => ?_))
    obtain ⟨card, hfind⟩ := hstored id hid
    rw [hfind, Option.map_some]
    exact congrArg some (Table.find?_eq_some_iff.1 hfind).2.symm
  have hlisted : ∀ card, card ∈ ids.filterMap cards.find? ↔
      card ∈ cards.rows ∧ database.finds selection card.id = true := by
    intro card
    rw [List.mem_filterMap]
    constructor
    · rintro ⟨id, hid, hfind⟩
      obtain ⟨hcard, rfl⟩ := Table.find?_eq_some_iff.1 hfind
      exact ⟨hcard, (hlisting.complete _).1 hid⟩
    · rintro ⟨hcard, hfinds⟩
      exact ⟨card.id, (hlisting.complete _).2 hfinds, Table.find?_eq_some_iff.2 ⟨hcard, rfl⟩⟩
  refine ⟨ids.filterMap cards.find?, hids, hlisted, ?_⟩
  have hascending := hlisting.ascending
  rw [hids, List.pairwise_map] at hascending
  refine hascending.imp_of_mem fun {card other} hcard hother hlt => ?_
  obtain ⟨hcard, hfinds⟩ := (hlisted card).1 hcard
  obtain ⟨hother, hfound⟩ := (hlisted other).1 hother
  unfold cardKey at hlt
  rw [sort_value_of_card hcolumn hcards hcard hfinds,
    sort_value_of_card hcolumn hcards hother hfound] at hlt
  exact (rank_key_integer_lt_iff (hrange card hcard) (hrange other hother)).1 hlt

/-- Cards in the order of what their numbers count as are in the order of the numbers themselves
exactly when no greater number counts as much as a smaller one and comes first. -/
theorem ascends_by_number_iff {number : Card → Int} {listed : List Card}
    (hrange : ∀ card ∈ listed, Text.isInt64 (number card) = true)
    (h : AscendsBy (fun card => sortedAs (number card)) listed) :
    AscendsBy number listed ↔ ∀ card ∈ listed, ∀ other ∈ listed, card.id < other.id →
      number other < number card → sortedAs (number other) < sortedAs (number card) := by
  constructor
  · intro hnumber card hcard other hother hid hlt
    refine lt_of_le_of_ne
      (sorted_as_mono (hrange other hother) (hrange card hcard) hlt.le) fun heq => ?_
    -- The card with the smaller id would come first and so have the smaller number.
    have hbefore := h.precedes hnumber hcard hother (Or.inr ⟨heq.symm, hid⟩)
    rcases hbefore with hgt | ⟨hsame, -⟩
    · exact lt_asymm hlt hgt
    · exact absurd hlt hsame.not_gt
  · intro hapart
    refine h.imp_of_mem fun {card other} hcard hother hbefore => ?_
    rcases lt_trichotomy (number card) (number other) with hlt | heq | hgt
    · exact Or.inl hlt
    · refine Or.inr ⟨heq, ?_⟩
      rcases hbefore with hlt | ⟨-, hid⟩
      · exact absurd hlt (congrArg sortedAs heq).not_lt
      · exact hid
    · have hmono := sorted_as_mono (hrange other hother) (hrange card hcard) hgt.le
      obtain ⟨hsame, hid⟩ := hbefore.resolve_left (not_lt.2 hmono)
      exact absurd (hapart card hcard other hother hid hgt) hsame.not_gt

end CardBrowser.Search
