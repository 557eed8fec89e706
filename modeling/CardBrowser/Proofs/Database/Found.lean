import Mathlib
import CardBrowser.Proofs.Database.Contents
import CardBrowser.Proofs.Database.SortPairs
import CardBrowser.Proofs.Sql.Order

/-!
# The cards that a selection finds

A joined selection goes through all pairs of a card and a note. As the ids of notes are unique, what
is left of these pairs is every card with its own note: `found_frames`. So a selection comes down to
the ids of `foundIds`, and a sort value to a function of the id.
-/

namespace CardBrowser.Database

open CardBrowser.Sql CardBrowser.Search

variable {database : Database} {selection : Selection} {sources : From}

/-- The names of cards and notes mean the lasting tables. -/
structure ShowsCards (database : Database) : Prop where
  cards : named? database.temporary "cards" = none
  notes : named? database.temporary "notes" = none

/-- The note of a card. -/
def noteOf? (database : Database) (card : Card) : Option StoredNote :=
  database.notes.bind (·.find? card.noteId)

/-- The rows at hand for the card of an id: the card and, where notes are joined, its note. -/
def frameOf? (database : Database) (joined : Bool) (id : Int) : Option Frame :=
  (database.cards.bind (·.find? id)).bind fun card =>
    if joined then
      (database.notes.bind (·.find? card.noteId)).map fun note =>
        [("c", card.row), ("n", note.row)]
    else some [("c", card.row)]

/-- Whether a selection finds the card of an id. -/
def finds (database : Database) (selection : Selection) (id : Int) : Bool :=
  (database.frameOf? selection.joined id).any fun frame =>
    holds database.tables selection.parameters frame selection.condition

/-- The ids of all cards in ascending order. -/
def storedIds (database : Database) : List Int :=
  (database.cards.map fun cards => cards.rows.map (·.id)).getD []

/-- The ids of the cards that a selection finds in ascending order. -/
def foundIds (database : Database) (selection : Selection) : List Int :=
  database.storedIds.filter (database.finds selection)

/-- The sort value of the card of an id. -/
def sortValue (database : Database) (selection : Selection) (value : Expr) (id : Int) : Value :=
  (database.frameOf? selection.joined id).elim .null fun frame =>
    value.eval database.tables selection.parameters [frame]

/-! ## Ids -/

/-- The rows at hand for a card that is stored. -/
theorem frame_of_card {cards : Table Card} {card : Card} (hcards : database.cards = some cards)
    (h : card ∈ cards.rows) (joined : Bool) :
    database.frameOf? joined card.id =
      if joined then (database.notes.bind (·.find? card.noteId)).map fun note =>
        [("c", card.row), ("n", note.row)]
      else some [("c", card.row)] := by
  have hfind : cards.find? card.id = some card := Table.find?_eq_some_iff.2 ⟨h, rfl⟩
  unfold frameOf?
  rw [hcards, Option.bind_some, hfind, Option.bind_some]

/-- Rows are at hand for stored cards only. -/
theorem mem_stored_ids {joined : Bool} {id : Int} {frame : Frame}
    (h : database.frameOf? joined id = some frame) : id ∈ database.storedIds := by
  obtain ⟨card, hcard, -⟩ := Option.bind_eq_some_iff.1 h
  obtain ⟨cards, hcards, hfind⟩ := Option.bind_eq_some_iff.1 hcard
  obtain ⟨hmem, hid⟩ := Table.find?_eq_some_iff.1 hfind
  unfold storedIds
  rw [hcards]
  exact List.mem_map.2 ⟨card, hmem, hid⟩

/-- The ids of cards are listed once each. -/
theorem found_ids_nodup : (database.foundIds selection).Nodup := by
  refine List.Nodup.filter _ ?_
  unfold storedIds
  cases database.cards with
  | none => exact List.nodup_nil
  | some cards => exact cards.ids_nodup

/-- The ids that are listed are those of the cards that are found. -/
theorem mem_found_ids {id : Int} :
    id ∈ database.foundIds selection ↔ database.finds selection id = true := by
  unfold foundIds
  rw [List.mem_filter, and_iff_right_iff_imp]
  intro hfinds
  cases hframe : database.frameOf? selection.joined id with
  | none => simp [finds, hframe] at hfinds
  | some frame => exact mem_stored_ids hframe

/-- The rows at hand for the cards that are found. -/
theorem filter_frame_of (id : Int) :
    (if database.finds selection id then database.frameOf? selection.joined id else none) =
      (database.frameOf? selection.joined id).filter fun frame =>
        holds database.tables selection.parameters frame selection.condition := by
  cases hframe : database.frameOf? selection.joined id with
  | none => simp
  | some frame => simp [finds, hframe, Option.filter]

/-! ## Frames -/

/-- A selection reads the lasting tables. -/
theorem sources_eq_ok_iff (h : database.ShowsCards) :
    database.sources selection.sources = .ok sources ↔
      ∃ cards, database.cards = some cards ∧
        if selection.joined then ∃ notes, database.notes = some notes ∧
          [("c", cardSource cards), ("n", noteSource notes)] = sources
        else [("c", cardSource cards)] = sources := by
  have hcards : database.tables "cards" = database.cards.map cardSource := by
    simp [tables, h.cards, lasting?, same_name_self]
  have hnotes : database.tables "notes" = database.notes.map noteSource := by
    have hname : sameName "notes" "cards" = false := by decide
    simp [tables, h.notes, lasting?, hname, same_name_self]
  unfold Database.sources Selection.sources
  cases selection.joined with
  | false =>
      cases hc : database.cards <;>
        simp [List.mapM_cons, hcards, hc, pure, Except.pure, bind, Except.bind]
  | true =>
      cases hc : database.cards <;> cases hn : database.notes <;>
        simp [List.mapM_cons, hcards, hnotes, hc, hn, pure, Except.pure, bind, Except.bind]

/-- A card and a note are joined if the note is that of the card. -/
theorem holds_joined (card : Card) (note : StoredNote) (h : selection.joined = true) :
    holds database.tables selection.parameters [("c", card.row), ("n", note.row)]
        selection.filter =
      (holds database.tables selection.parameters [("c", card.row), ("n", note.row)]
        selection.condition && note.id == card.noteId) := by
  have hcard : Frame.candidates [("c", card.row), ("n", note.row)] (some "c") "nid" =
      [.integer card.noteId] := by
    have hnames : sameName "n" "c" = false ∧ sameName "id" "nid" = false := by decide
    simp [Frame.candidates, Row.get?, Card.row, hnames, same_name_self]
  have hnote : Frame.candidates [("c", card.row), ("n", note.row)] (some "n") "id" =
      [.integer note.id] := by
    have hname : sameName "c" "n" = false := by decide
    simp [Frame.candidates, Row.get?, StoredNote.row, hname, same_name_self]
  have hequal : BinaryOp.apply .equal (.integer card.noteId) (.integer note.id) =
      .ofBool (note.id == card.noteId) := by
    have hcompares := Value.compares_integer .binary card.noteId note.id
    show Value.ofBool (_ == Ordering.eq) = _
    rw [Bool.eq_iff_iff.2 (beq_iff_eq.trans (hcompares.eq_eq.trans eq_comm) |>.trans
      beq_iff_eq.symm)]
  have hand : ∀ (same : Bool) (truth : Option Bool),
      ((Value.ofBool? (and? (Value.ofBool same).truth? truth)).truth? == some true) =
        (truth == some true && same) := by
    intro same truth
    cases same <;> rcases truth with _ | _ | _ <;> rfl
  unfold Selection.filter holds
  rw [if_pos h]
  simp only [Expr.eval, Scope.resolve, hcard, hnote, Except.toOption, Option.getD_some, hequal]
  exact hand _ _

/-- Of the pairs of a card with every note, those with its own note are left. -/
theorem filter_frames_joined {cards : Table Card} {notes : Table StoredNote} {card : Card}
    (hjoined : selection.joined = true) (hcards : database.cards = some cards)
    (hnotes : database.notes = some notes) (hcard : card ∈ cards.rows) :
    (notes.rows.map fun note => [("c", card.row), ("n", note.row)]).filter (fun frame =>
        holds database.tables selection.parameters frame selection.filter) =
      ((database.frameOf? selection.joined card.id).filter fun frame =>
        holds database.tables selection.parameters frame selection.condition).toList := by
  have hpairs : (fun frame => holds database.tables selection.parameters frame
      selection.filter) ∘ (fun note : StoredNote => [("c", card.row), ("n", note.row)]) =
      fun note => holds database.tables selection.parameters
        [("c", card.row), ("n", note.row)] selection.condition &&
          Identified.id note == card.noteId :=
    funext fun note => holds_joined card note hjoined
  rw [frame_of_card hcards hcard, if_pos hjoined, hnotes, Option.bind_some, Option.toList_filter,
    List.filter_map, hpairs, ← List.filter_filter, Table.filter_id_eq, Option.toList_map,
    List.filter_map]
  rfl

/-- What a selection finds are the frames of single cards. -/
theorem found_frames (h : database.ShowsCards)
    (hsources : database.sources selection.sources = .ok sources) :
    (frames sources).filter (fun frame =>
        holds database.tables selection.parameters frame selection.filter) =
      (database.foundIds selection).filterMap (database.frameOf? selection.joined) := by
  obtain ⟨cards, hcards, hsources⟩ := (sources_eq_ok_iff h).1 hsources
  -- Both lists are made card by card.
  have hfound : (database.foundIds selection).filterMap (database.frameOf? selection.joined) =
      cards.rows.flatMap fun card =>
        ((database.frameOf? selection.joined card.id).filter fun frame =>
          holds database.tables selection.parameters frame selection.condition).toList := by
    unfold foundIds storedIds
    rw [hcards, Option.map_some, Option.getD_some, List.filterMap_filter, List.filterMap_map,
      List.filterMap_eq_flatMap_toList]
    exact List.flatMap_congr fun card _ => congrArg Option.toList (filter_frame_of card.id)
  rw [hfound]
  split at hsources
  · rename_i hjoined
    obtain ⟨notes, hnotes, rfl⟩ := hsources
    have hframes : frames [("c", cardSource cards), ("n", noteSource notes)] =
        cards.rows.flatMap fun card => notes.rows.map fun note =>
          [("c", card.row), ("n", note.row)] := by
      simp [frames, cardSource, noteSource, List.flatMap_map, ← List.map_eq_flatMap,
        Function.comp_def]
    rw [hframes, List.filter_flatMap]
    exact List.flatMap_congr fun card hcard =>
      filter_frames_joined hjoined hcards hnotes hcard
  · rename_i hjoined
    subst hsources
    have hframes : frames [("c", cardSource cards)] =
        cards.rows.flatMap fun card => [[("c", card.row)]] := by
      simp [frames, cardSource, List.flatMap_map]
    have hfilter : selection.filter = selection.condition := if_neg hjoined
    rw [hframes, List.filter_flatMap, hfilter]
    refine List.flatMap_congr fun card hcard => ?_
    rw [frame_of_card hcards hcard, if_neg hjoined, Option.toList_filter]
    rfl

/-! ## Results -/

/-- The id of the card in a frame. -/
theorem card_id_of_frame {joined : Bool} {id : Int} {frame : Frame}
    (h : database.frameOf? joined id = some frame) (tables : Tables) (parameters : List Value) :
    cardId.eval tables parameters [frame] = .integer id := by
  obtain ⟨card, hcard, hframe⟩ := Option.bind_eq_some_iff.1 h
  obtain ⟨cards, -, hfind⟩ := Option.bind_eq_some_iff.1 hcard
  obtain ⟨-, rfl⟩ := Table.find?_eq_some_iff.1 hfind
  have hname : sameName "n" "c" = false := by decide
  suffices hcandidates : frame.candidates (some "c") "id" = [.integer card.id] by
    simp only [cardId, Expr.eval, Scope.resolve, hcandidates]
    rfl
  split at hframe
  · obtain ⟨note, -, rfl⟩ := Option.map_eq_some_iff.1 hframe
    simp [Frame.candidates, Row.get?, Card.row, hname, same_name_self]
  · cases hframe
    simp [Frame.candidates, Row.get?, Card.row, same_name_self]

/-- Results that depend on the id of the card alone. -/
theorem map_found_frames {α : Type} {result : Frame → α} {resultOf : Int → α}
    (h : ∀ id frame, database.frameOf? selection.joined id = some frame →
      result frame = resultOf id) :
    ((database.foundIds selection).filterMap (database.frameOf? selection.joined)).map result =
      (database.foundIds selection).map resultOf := by
  rw [List.map_filterMap, ← List.filterMap_eq_map]
  refine List.filterMap_congr fun id hmem => ?_
  have hfinds := mem_found_ids.1 hmem
  cases hframe : database.frameOf? selection.joined id with
  | none => simp [finds, hframe] at hfinds
  | some frame => exact congrArg some (h id frame hframe)

/-- The pairs of card ids and sort values that a selection leads to. -/
theorem sort_pairs_eq (h : database.ShowsCards)
    (hsources : database.sources selection.sources = .ok sources) (value : Expr) :
    sortPairs database sources value selection.filter selection.parameters =
      (database.foundIds selection).map fun id =>
        (.integer id, database.sortValue selection value id) := by
  unfold sortPairs
  rw [found_frames h hsources]
  refine map_found_frames fun id frame hframe => ?_
  rw [card_id_of_frame hframe]
  simp only [sortValue, hframe, Option.elim_some]

/-- A plain query lists every card that its selection finds once. -/
theorem card_ids_perm {names : List String} {query : CardQuery} {ids : List Int}
    (h : database.ShowsCards) (hfilter : query.selection.filter.readsOnly names = true)
    (hids : database.cardIds query = .ok ids) : ids.Perm (database.foundIds query.selection) := by
  unfold cardIds at hids
  obtain ⟨ordered, -, hids⟩ := Except.bind_eq_ok_iff.1 hids
  obtain ⟨rows, hrows, hids⟩ := Except.bind_eq_ok_iff.1 hids
  obtain ⟨read, hread, sources, hsources, -, rfl⟩ := run_eq_ok_iff.1 hrows
  obtain ⟨results, hresults, hread⟩ := Except.bind_eq_ok_iff.1 hread
  obtain ⟨condition, hcondition, hread⟩ := Except.bind_eq_ok_iff.1 hread
  obtain rfl := Expr.eq_of_expand hfilter hcondition
  cases hread
  -- Whatever the terms of the order are, the last result is the id.
  obtain ⟨others, rfl⟩ : ∃ others, results = others ++ [cardId] := by
    rw [List.map_append, List.mapM_append] at hresults
    obtain ⟨others, -, hresults⟩ := Except.bind_eq_ok_iff.1 hresults
    cases hresults
    exact ⟨others, rfl⟩
  obtain rfl := Except.ok.inj hids
  have hperm := (List.mergeSort_perm (Query.listed database sources
    ⟨others ++ [cardId], query.selection.filter, query.selection.parameters⟩)
      fun a b => keyOrder (ordered ++ [⟨cardId, false⟩]) a b != .gt).map
        fun row => wholeNumber (row.getLastD .null)
  refine hperm.trans (List.Perm.of_eq ?_)
  unfold Query.listed Query.found
  rw [found_frames h hsources, List.map_map]
  refine (map_found_frames fun id frame hframe => ?_).trans (List.map_id _)
  simp [card_id_of_frame hframe, wholeNumber]

/-! ## Beside an earlier sort table -/

variable {name : String}

/-- No temporary table hides cards or notes after one of them is gone. -/
theorem ShowsCards.without (h : database.ShowsCards) (name : String) :
    (database.without name).ShowsCards := by
  have hnamed : ∀ table, named? database.temporary table = none →
      named? (database.without name).temporary table = none := by
    intro table hnone
    unfold named? at hnone ⊢
    rw [Option.map_eq_none_iff, List.find?_eq_none] at hnone ⊢
    exact fun entry hmem => hnone entry (List.mem_of_mem_filter hmem)
  exact ⟨hnamed _ h.cards, hnamed _ h.notes⟩

/-- An earlier sort table is none that searches read if no temporary table is. -/
theorem ShowsCards.spares (h : database.ShowsCards) (name : String) :
    database.SparesSearch name := by
  have hother : ∀ table, named? database.temporary table = none →
      (named? database.temporary name).isSome = true → sameName name table = false := by
    intro table hnone hsome
    refine Bool.eq_false_iff.2 fun hsame => ?_
    have hnamed : named? database.temporary name = named? database.temporary table := by
      unfold named?
      simp only [@same_name_comm _ name, @same_name_comm _ table, same_name_trans hsame]
    rw [hnamed, hnone] at hsome
    cases hsome
  exact fun hsome => ⟨hother _ h.cards hsome, hother _ h.notes hsome⟩

/-- A selection whose condition reads no table finds the same cards whatever temporary tables there
are. -/
theorem finds_without (h : selection.condition.tables = []) (id : Int) :
    (database.without name).finds selection id = database.finds selection id := by
  have heval : ∀ frame, holds (database.without name).tables selection.parameters frame
      selection.condition =
        holds database.tables selection.parameters frame selection.condition := by
    intro frame
    unfold holds
    rw [Expr.eval_congr (by rw [h]; exact fun _ hmem => absurd hmem List.not_mem_nil)]
  unfold finds
  simp only [heval]
  rfl

end CardBrowser.Database
