import Mathlib
import CardBrowser.Proofs.Search.LongPattern
import CardBrowser.Proofs.Search.Selected

/-!
# Search texts one after the other

A text that is made of two with a space between them asks for what both ask for. Its values are
those of the first and then those of the second, and what is read from its SQL holds where both
conditions hold. So it lists the cards that both list, unless its condition has so many levels that
a database refuses it: `concatenation_selects`.
-/

namespace CardBrowser.Search

open CardBrowser.Database CardBrowser.Sql

variable {today : Int} {next : Nat} {first second : List Clause}

/-! ## Clauses -/

/-- The values of a clause do not depend on the number of its placeholder. -/
theorem parameters_clause (clause : Clause) (next other : Nat) :
    (clause.condition today next).2 = (clause.condition today other).2 := by
  obtain ⟨negated, term⟩ := clause
  cases term with
  | state wanted => cases wanted <;> rfl
  | _ => rfl

/-- Neither do the values of clauses. -/
theorem parameters_conditions (clauses : List Clause) (next other : Nat) :
    (conditions today next clauses).2 = (conditions today other clauses).2 := by
  induction clauses generalizing next other with
  | nil => rfl
  | cons clause clauses ih =>
      rw [conditions_cons, conditions_cons, parameters_clause clause next other, ih]

/-- The conditions of clauses stand before those of the clauses after them. -/
theorem conditions_append (next : Nat) (first second : List Clause) :
    conditions today next (first ++ second) =
      ((conditions today next first).1 ++
        (conditions today (next + (conditions today next first).2.length) second).1,
       (conditions today next first).2 ++
        (conditions today (next + (conditions today next first).2.length) second).2) := by
  induction first generalizing next with
  | nil => rfl
  | cons clause first ih =>
      rw [List.cons_append, conditions_cons, conditions_cons, ih, List.length_append, Nat.add_assoc,
        List.cons_append, List.append_assoc]

/-- The values of clauses stand before those of the clauses after them. -/
theorem parameters_append :
    (Predicate.ofClauses today (first ++ second)).parameters =
      (Predicate.ofClauses today first).parameters ++
        (Predicate.ofClauses today second).parameters := by
  show (conditions today 1 (first ++ second)).2 = _
  rw [conditions_append, parameters_conditions second _ 1]
  rfl

/-- A text is read as the clauses of its two parts. -/
theorem clauses_append {text other : List Char} (hfirst : clauses text = .ok first)
    (hsecond : clauses other = .ok second) :
    clauses (text ++ ' ' :: other) = .ok (first ++ second) := by
  obtain ⟨hcount, hfirst⟩ := clauses_eq_ok_iff.1 hfirst
  obtain ⟨hother, hsecond⟩ := clauses_eq_ok_iff.1 hsecond
  refine clauses_eq_ok_iff.2 ⟨?_, ?_⟩
  · rw [List.count_append, List.count_cons_of_ne (by decide)]
    omega
  · rw [words_append hcount, List.mapM_append, hfirst, hsecond]
    rfl

/-- Clauses mention the note if the ones or the others do. -/
theorem mentions_append :
    (Predicate.ofClauses today (first ++ second)).mentions "n" =
      ((Predicate.ofClauses today first).mentions "n" ||
        (Predicate.ofClauses today second).mentions "n") := by
  rw [Bool.eq_iff_iff, Bool.or_eq_true]
  unfold Predicate.mentions
  simp only [(sql_of_clauses _).1, mentions_shapes_sql, List.map_append, List.mem_append,
    or_and_right, exists_or]

/-! ## Levels -/

/-- The levels of two conditions that are joined. -/
def joinLevels (left right : Nat) : Nat := max left right + 1

/-- The levels of a conjunction whose parts have the given levels. -/
def conjunctionLevels : List Nat → Nat
  | [] => 1
  | height :: heights => heights.foldl joinLevels height

/-- The levels of a conjunction come from those of its parts. -/
theorem height_conjunction (conditions : List Expr) :
    (conjunction conditions).height = conjunctionLevels (conditions.map Expr.height) := by
  cases conditions with
  | nil => rfl
  | cons condition conditions =>
      show (conditions.foldl (.binary .and) condition).height =
        (conditions.map Expr.height).foldl joinLevels condition.height
      induction conditions generalizing condition with
      | nil => rfl
      | cons other conditions ih => exact ih (.binary .and condition other)

/-- The levels of the condition of a clause. -/
def Clause.levels (today : Int) (clause : Clause) : Nat :=
  (clause.condition today 1).1.height

/-- The levels of clauses do not depend on the numbers of their placeholders. -/
theorem heights_conditions (clauses : List Clause) :
    (conditions today next clauses).1.map Expr.height = clauses.map (·.levels today) := by
  have hclause : ∀ (clause : Clause) (next : Nat),
      (clause.condition today next).1.height = clause.levels today := by
    intro clause next
    obtain ⟨negated, term⟩ := clause
    cases term with
    | state wanted => cases negated <;> cases wanted <;> rfl
    | _ => cases negated <;> rfl
  induction clauses generalizing next with
  | nil => rfl
  | cons clause clauses ih => rw [conditions_cons, List.map_cons, List.map_cons, hclause, ih]

/-- The levels of the condition of clauses. -/
theorem height_clauses (clauses : List Clause) :
    (Predicate.ofClauses today clauses).condition.height =
      conjunctionLevels (clauses.map (·.levels today)) :=
  (height_conjunction _).trans (congrArg conjunctionLevels (heights_conditions clauses))

/-- Every expression has a level. -/
theorem height_pos (expr : Expr) : 0 < expr.height := by
  fun_induction Expr.height expr with
  | case1 n =>
      unfold Expr.numberHeight
      split <;> decide
  | case3 inner ih => exact ih
  | _ => exact Nat.succ_pos _

/-- Every further part adds a level. -/
theorem add_length_le_levels (heights : List Nat) (start : Nat) :
    start + heights.length ≤ heights.foldl joinLevels start := by
  induction heights generalizing start with
  | nil => exact le_rfl
  | cons height heights ih =>
      have hnext := ih (joinLevels start height)
      unfold joinLevels at hnext
      rw [List.length_cons, List.foldl_cons]
      exact le_trans (by omega) hnext

/-- Levels that are built on more levels are more. -/
theorem levels_mono (heights : List Nat) {start other : Nat} (h : start ≤ other) :
    heights.foldl joinLevels start ≤ heights.foldl joinLevels other := by
  induction heights generalizing start other with
  | nil => exact h
  | cons height heights ih => exact ih (Nat.succ_le_succ (max_le_max_right height h))

/-- More parts have more levels. -/
theorem levels_append (first second : List Nat) (hfirst : ∀ height ∈ first, 0 < height)
    (hsecond : ∀ height ∈ second, 0 < height) :
    conjunctionLevels first ≤ conjunctionLevels (first ++ second) ∧
      conjunctionLevels second ≤ conjunctionLevels (first ++ second) := by
  have hpos : ∀ heights : List Nat, (∀ height ∈ heights, 0 < height) →
      0 < conjunctionLevels heights := by
    intro heights h
    cases heights with
    | nil => exact Nat.one_pos
    | cons height heights =>
        have hlevels := add_length_le_levels heights height
        have hheight := h height List.mem_cons_self
        exact lt_of_lt_of_le (by omega) hlevels
  have hboth := hpos (first ++ second) (List.forall_mem_append.2 ⟨hfirst, hsecond⟩)
  cases first with
  | nil => exact ⟨hboth, le_rfl⟩
  | cons height heights =>
      show heights.foldl joinLevels height ≤ (heights ++ second).foldl joinLevels height ∧ _
      rw [List.foldl_append]
      refine ⟨(Nat.le_add_right _ _).trans (add_length_le_levels _ _), ?_⟩
      -- In front, the first part of the others is joined to levels that are not fewer than its own.
      cases second with
      | nil => exact hboth
      | cons other others =>
          show others.foldl joinLevels other ≤ (heights ++ other :: others).foldl joinLevels height
          rw [List.foldl_append]
          exact levels_mono others ((le_max_right _ _).trans (Nat.le_succ _))

/-- The condition of clauses has at least as many levels as that of a part of them. -/
theorem height_append :
    (Predicate.ofClauses today first).condition.height ≤
        (Predicate.ofClauses today (first ++ second)).condition.height ∧
      (Predicate.ofClauses today second).condition.height ≤
        (Predicate.ofClauses today (first ++ second)).condition.height := by
  have hpos : ∀ clauses : List Clause,
      ∀ height ∈ clauses.map (·.levels today), 0 < height := by
    intro clauses height hmem
    obtain ⟨clause, -, rfl⟩ := List.mem_map.1 hmem
    exact height_pos _
  rw [height_clauses, height_clauses, height_clauses, List.map_append]
  exact levels_append _ _ (hpos first) (hpos second)

/-! ## Lists of cards -/

variable {database : Database} {predicate : Predicate} {text : String} {card : Card}
  {cards : Table Card} {joined : Bool}

/-- The cards of a predicate, joined with their notes always or where the predicate mentions
them. -/
def plainSelection (predicate : Predicate) (always : Bool) : Selection :=
  Selection.ofPredicate predicate (always || predicate.mentions "n")

/-- The cards that the plain query of a predicate lists; none if the query fails. -/
def listedIds (database : Database) (always : Bool) (predicate : Predicate) : List Int :=
  (database.cardIds ⟨plainSelection predicate always, none⟩).toOption.getD []

/-- A plain selection joins the notes, or else its predicate does not mention them. -/
theorem plain_joins (always : Bool) (predicate : Predicate) :
    (always || predicate.mentions "n") = true ∨ predicate.mentions "n" = false := by
  cases predicate.mentions "n" <;> simp

/-- The levels of the filter of a text. -/
theorem height_plain (always : Bool) (hpredicate : Predicate.ofText today text = .ok predicate) :
    (plainSelection predicate always).filter.height =
      if always || predicate.mentions "n" then max 3 predicate.condition.height + 1
      else predicate.condition.height := by
  unfold plainSelection Selection.filter Selection.ofPredicate
  rw [guarded_of_text hpredicate]
  cases always || predicate.mentions "n" <;> rfl

/-- The filter of a text that asks for more has more levels. -/
theorem height_plain_le {other : Predicate} {otherText : String} (always : Bool)
    (hpredicate : Predicate.ofText today text = .ok predicate)
    (hother : Predicate.ofText today otherText = .ok other)
    (hheight : predicate.condition.height ≤ other.condition.height)
    (hmentions : predicate.mentions "n" = true → other.mentions "n" = true) :
    (plainSelection predicate always).filter.height ≤
      (plainSelection other always).filter.height := by
  have hjoined : (always || predicate.mentions "n") = true →
      (always || other.mentions "n") = true := by
    simp only [Bool.or_eq_true]
    exact Or.imp_right hmentions
  rw [height_plain always hpredicate, height_plain always hother]
  split
  · rename_i h
    rw [if_pos (hjoined h)]
    exact Nat.succ_le_succ (max_le_max_left 3 hheight)
  · split
    · exact hheight.trans ((le_max_right _ _).trans (Nat.le_succ _))
    · exact hheight

/-- Where a selection finds a card, the tables that it reads are there. -/
theorem sources_of_finds {selection : Selection} {id : Int} (hshows : database.ShowsCards)
    (h : database.finds selection id = true) :
    ∃ sources, database.sources selection.sources = .ok sources := by
  obtain ⟨frame, hframe, -⟩ := (Option.any_eq_true _ _).1 h
  obtain ⟨card, hcard, hframe⟩ := Option.bind_eq_some_iff.1 hframe
  obtain ⟨cards, hcards, -⟩ := Option.bind_eq_some_iff.1 hcard
  simp only [sources_eq_ok_iff hshows]
  split at hframe
  · rename_i hjoined
    obtain ⟨note, hnote, -⟩ := Option.map_eq_some_iff.1 hframe
    obtain ⟨notes, hnotes, -⟩ := Option.bind_eq_some_iff.1 hnote
    exact ⟨_, cards, hcards, by rw [if_pos hjoined]; exact ⟨notes, hnotes, rfl⟩⟩
  · rename_i hjoined
    exact ⟨_, cards, hcards, by rw [if_neg hjoined]⟩

/-- A plain query that runs has no more levels than a database allows, and one that lists a card has
no long pattern. It lists the cards that its selection finds. -/
theorem mem_listed_iff {always : Bool} {id : Int} (hshows : database.ShowsCards)
    (hpredicate : Predicate.ofText today text = .ok predicate) :
    id ∈ listedIds database always predicate ↔
      (plainSelection predicate always).filter.height ≤ greatestHeight ∧
        hasLongPattern predicate.parameters predicate.condition = false ∧
        database.finds (plainSelection predicate always) id = true := by
  have hjoined := plain_joins always predicate
  have hreads :=
    reads_only_filter (reads_only_of_text hpredicate) (always || predicate.mentions "n")
  unfold listedIds
  constructor
  · intro hmem
    cases hids : database.cardIds ⟨plainSelection predicate always, none⟩ with
    | error fault =>
        rw [hids] at hmem
        exact absurd hmem List.not_mem_nil
    | ok ids =>
        rw [hids] at hmem
        obtain ⟨sources, -, haccepted⟩ := accepted_of_listed hpredicate hids
        exact ⟨(Query.forall_exprs.1 haccepted.height).2,
          short_of_listed hshows hpredicate hjoined hids hmem,
          mem_found_ids.1 ((card_ids_perm hshows hreads hids).mem_iff.1 hmem)⟩
  · rintro ⟨hheight, hpatterns, hfinds⟩
    obtain ⟨sources, hsources⟩ := sources_of_finds hshows hfinds
    obtain ⟨ids, hids, hperm⟩ := card_ids_of_sources hshows hsources hpredicate hjoined hheight
      ((has_long_pattern_filter hpredicate).trans hpatterns)
    have hlisted : database.cardIds ⟨plainSelection predicate always, none⟩ = .ok ids := hids
    rw [hlisted]
    exact hperm.mem_iff.2 (mem_found_ids.2 hfinds)

/-! ## Two texts -/

/-- What is read from the SQL of a predicate holds of a card and its note. -/
def Selects (tables : Tables) (predicate : Predicate) (card : Card) (note : StoredNote) : Prop :=
  ∃ read, Expr.ofText? predicate.sql = some read ∧
    holds tables predicate.parameters (cardFrame card note) read = true

/-- A search text selects a card if all its words hold of the card and its note. -/
theorem selects_iff_words_hold {tables : Tables} {note : StoredNote}
    (hpredicate : Predicate.ofText today text = .ok predicate) :
    Selects tables predicate card note ↔
      ∀ word ∈ words text.toList, WordHolds Occurs today card note word := by
  obtain ⟨read, hread, -⟩ := of_text_condition hpredicate
  constructor
  · rintro ⟨other, hother, hholds⟩
    exact (holds_iff_words_hold hpredicate hother).1 hholds
  · exact fun h => ⟨read, hread, (holds_iff_words_hold hpredicate hread).2 h⟩

/-- A selection finds the cards that two others find, if its predicate is satisfied where theirs are
and mentions notes where one of theirs does. -/
theorem finds_both {left right both : Predicate} {leftText rightText bothText : String}
    {always : Bool} {id : Int} (hleft : Predicate.ofText today leftText = .ok left)
    (hright : Predicate.ofText today rightText = .ok right)
    (hboth : Predicate.ofText today bothText = .ok both)
    (hmentions : both.mentions "n" = (left.mentions "n" || right.mentions "n"))
    (hsatisfies : ∀ card note, Satisfies database both card note ↔
      Satisfies database left card note ∧ Satisfies database right card note) :
    database.finds (plainSelection both always) id = true ↔
      database.finds (plainSelection left always) id = true ∧
        database.finds (plainSelection right always) id = true := by
  have hjoined := plain_joins always
  cases hcard : database.cards.bind (·.find? id) with
  | none =>
      have hnone : ∀ selection, database.finds selection id = false := by
        intro selection
        unfold finds frameOf?
        rw [hcard]
        rfl
      simp only [hnone, Bool.false_eq_true, and_self]
  | some card =>
      obtain ⟨cards, hcards, hfind⟩ := Option.bind_eq_some_iff.1 hcard
      obtain ⟨hmem, hid⟩ := Table.find?_eq_some_iff.1 hfind
      obtain rfl : card.id = id := hid
      unfold plainSelection
      rw [finds_stored_card hcards hmem hboth (hjoined both),
        finds_stored_card hcards hmem hleft (hjoined left),
        finds_stored_card hcards hmem hright (hjoined right), hsatisfies, hmentions]
      simp only [Bool.or_eq_true]
      tauto

/-- Two search texts with a space between them ask for what both ask for. The values are those of
the first text and then those of the second, and a card is selected if both select it. A database
lists the cards that it lists for both, unless the condition has so many levels that it is refused;
then nothing is listed. -/
theorem concatenation_selects (today : Int) (first second : String) (left right : Predicate)
    (hfirst : Predicate.ofText today first = .ok left)
    (hsecond : Predicate.ofText today second = .ok right) :
    ∃ both, Predicate.ofText today (first ++ " " ++ second) = .ok both ∧
      both.parameters = left.parameters ++ right.parameters ∧
      (∀ tables card note, Selects tables both card note ↔
        Selects tables left card note ∧ Selects tables right card note) ∧
      ∀ (database : Database) (always : Bool), database.ShowsCards →
        ((plainSelection both always).filter.height ≤ greatestHeight →
          ∀ id, id ∈ listedIds database always both ↔
            id ∈ listedIds database always left ∧ id ∈ listedIds database always right) ∧
        (greatestHeight < (plainSelection both always).filter.height →
          listedIds database always both = []) := by
  obtain ⟨found, hfound, rfl⟩ := of_text_eq_ok_iff.1 hfirst
  obtain ⟨others, hothers, rfl⟩ := of_text_eq_ok_iff.1 hsecond
  have htext : (first ++ " " ++ second).toList = first.toList ++ ' ' :: second.toList := by
    simp [String.toList_append]
  have hboth : Predicate.ofText today (first ++ " " ++ second) =
      .ok (Predicate.ofClauses today (found ++ others)) := by
    refine of_text_eq_ok_iff.2 ⟨found ++ others, ?_, rfl⟩
    rw [htext]
    exact clauses_append hfound hothers
  have hwords : ∀ holds : List Char → Prop,
      (∀ word ∈ words (first ++ " " ++ second).toList, holds word) ↔
        (∀ word ∈ words first.toList, holds word) ∧ ∀ word ∈ words second.toList, holds word := by
    intro holds
    rw [htext, words_append (clauses_eq_ok_iff.1 hfound).1, List.forall_mem_append]
  refine ⟨_, hboth, parameters_append, fun tables card note => ?_, ?_⟩
  · rw [selects_iff_words_hold hboth, selects_iff_words_hold hfirst, selects_iff_words_hold hsecond]
    exact hwords _
  intro database always hshows
  constructor
  · intro hheight id
    have hsatisfies : ∀ card note,
        Satisfies database (Predicate.ofClauses today (found ++ others)) card note ↔
          Satisfies database (Predicate.ofClauses today found) card note ∧
            Satisfies database (Predicate.ofClauses today others) card note := fun card note =>
      (condition_decides hboth).counts_iff.trans ((hwords _).trans
        (and_congr (condition_decides hfirst).counts_iff.symm
          (condition_decides hsecond).counts_iff.symm))
    -- Neither text has more levels than both together, so neither is refused for its levels.
    have hleft := (height_plain_le always hfirst hboth height_append.1 fun h => by
      rw [mentions_append, h, Bool.true_or]).trans hheight
    have hright := (height_plain_le always hsecond hboth height_append.2 fun h => by
      rw [mentions_append, h, Bool.or_true]).trans hheight
    rw [mem_listed_iff hshows hboth, mem_listed_iff hshows hfirst, mem_listed_iff hshows hsecond,
      finds_both hfirst hsecond hboth mentions_append hsatisfies, has_long_pattern_clauses,
      has_long_pattern_clauses, has_long_pattern_clauses, List.any_append, Bool.or_eq_false_iff]
    tauto
  · intro hheight
    refine List.eq_nil_iff_forall_not_mem.2 fun id hmem => ?_
    exact absurd ((mem_listed_iff hshows hboth).1 hmem).1 (Nat.not_le.2 hheight)

/-- A card is listed for two words together as it is for each of them. -/
theorem concatenation_selects_state : ∃ both,
    Predicate.ofText 0 ("D*g" ++ " " ++ "-is:review") = .ok both ∧
      both.parameters = [.text "%D%g%"] ∧ 1 ∈ listedIds (oneCard "a dog") false both := by
  have hfirst : Predicate.ofText 0 "D*g" = .ok (.ofClauses 0 [⟨false, .text "D*g".toList⟩]) := rfl
  have hsecond : Predicate.ofText 0 "-is:review" =
      .ok (.ofClauses 0 [⟨true, .state .review⟩]) := rfl
  obtain ⟨both, hboth, hparameters, -, hlisted⟩ :=
    concatenation_selects 0 "D*g" "-is:review" _ _ hfirst hsecond
  have hread : Predicate.ofText 0 ("D*g" ++ " " ++ "-is:review") =
      .ok (.ofClauses 0 [⟨false, .text "D*g".toList⟩, ⟨true, .state .review⟩]) := rfl
  obtain rfl := Except.ok.inj (hboth.symm.trans hread)
  refine ⟨_, hboth, hparameters, ?_⟩
  exact ((hlisted (oneCard "a dog") false ⟨rfl, rfl⟩).1 (by decide) 1).2 (by decide +kernel)

/-! ## Too many levels -/

/-- A search text that asks for new cards again and again. -/
def newCards (times : Nat) : String :=
  " ".intercalate (List.replicate times "is:new")

/-- The clauses of this text. -/
def newClauses (times : Nat) : List Clause :=
  List.replicate times ⟨false, .state .new⟩

/-- All of these clauses are the same. -/
theorem eq_of_mem_new_clauses {times : Nat} {clause : Clause} (h : clause ∈ newClauses times) :
    clause = ⟨false, .state .new⟩ := (List.mem_replicate.1 h).2

/-- A text that asks for new cards again and again is read. -/
theorem clauses_new_cards (times : Nat) :
    clauses (newCards times).toList = .ok (newClauses times) := by
  induction times with
  | zero => rfl
  | succ times ih =>
      cases times with
      | zero => rfl
      | succ times =>
          have htext : (newCards (times + 1 + 1)).toList =
              "is:new".toList ++ ' ' :: (newCards (times + 1)).toList := by
            unfold newCards
            rw [List.replicate_succ, List.replicate_succ, String.intercalate_cons_cons]
            simp [String.toList_append]
          have hfirst : clauses "is:new".toList = .ok (newClauses 1) := rfl
          rw [htext]
          exact clauses_append hfirst ih

/-- Every word that is not the first adds a level. -/
theorem height_new_cards (times : Nat) :
    (Predicate.ofClauses today (newClauses (times + 1))).condition.height = times + 3 := by
  have hlevels : ∀ (times start : Nat), 3 ≤ start →
      (List.replicate times 3).foldl joinLevels start = start + times := by
    intro times
    induction times with
    | zero => exact fun start _ => rfl
    | succ times ih =>
        intro start hstart
        have hjoin : joinLevels start 3 = start + 1 := congrArg (· + 1) (max_eq_left hstart)
        rw [List.replicate_succ, List.foldl_cons, hjoin, ih (start + 1) (by omega)]
        omega
  unfold newClauses
  rw [height_clauses, List.map_replicate]
  exact (hlevels times 3 le_rfl).trans (Nat.add_comm _ _)

/-- A text that asks for new cards again and again lists them unless it has too many words. -/
theorem new_cards_listed_iff {times : Nat}
    (hread : Predicate.ofText today text = .ok (.ofClauses today (newClauses (times + 1)))) :
    1 ∈ listedIds (oneCard "a") false (.ofClauses today (newClauses (times + 1))) ↔
      times + 3 ≤ greatestHeight := by
  have hmentions : (Predicate.ofClauses today (newClauses (times + 1))).mentions "n" = false := by
    refine Bool.eq_false_iff.2 fun hmentions => ?_
    unfold Predicate.mentions at hmentions
    rw [(sql_of_clauses _).1, mentions_shapes_sql] at hmentions
    obtain ⟨shape, hshape, hasks⟩ := hmentions
    obtain ⟨clause, hmem, rfl⟩ := List.mem_map.1 hshape
    rw [eq_of_mem_new_clauses hmem] at hasks
    cases hasks
  have hlong : (newClauses (times + 1)).any (·.term.isLong) = false := by
    refine List.any_eq_false.2 fun clause hmem => ?_
    rw [eq_of_mem_new_clauses hmem]
    exact Bool.false_ne_true
  have hfinds : (oneCard "a").finds
      (plainSelection (.ofClauses today (newClauses (times + 1))) false) 1 = true := by
    have hnotes : (oneCard "a").notes = some _ := rfl
    have hcards : (oneCard "a").cards = some _ := rfl
    refine (finds_card hnotes hcards hread (Or.inr hmentions) List.mem_cons_self rfl).2
      ((clauses_decide _).counts_iff.2 fun clause hmem => ?_)
    rw [eq_of_mem_new_clauses hmem]
    exact (rfl : (0 : Int) = 0)
  rw [mem_listed_iff ⟨rfl, rfl⟩ hread, height_plain false hread, hmentions, height_new_cards,
    has_long_pattern_clauses, hlong]
  exact and_iff_left ⟨rfl, hfinds⟩

/-- Six hundred words list a new card, but twice as many list nothing. -/
theorem new_cards_refused : ∃ predicate both,
    Predicate.ofText 0 (newCards 600) = .ok predicate ∧
      Predicate.ofText 0 (newCards 600 ++ " " ++ newCards 600) = .ok both ∧
      1 ∈ listedIds (oneCard "a") false predicate ∧ 1 ∉ listedIds (oneCard "a") false both := by
  have hread : Predicate.ofText 0 (newCards 600) = .ok (.ofClauses 0 (newClauses (599 + 1))) :=
    of_text_eq_ok_iff.2 ⟨_, clauses_new_cards 600, rfl⟩
  have hboth : Predicate.ofText 0 (newCards 600 ++ " " ++ newCards 600) =
      .ok (.ofClauses 0 (newClauses (1199 + 1))) := by
    have htext : (newCards 600 ++ " " ++ newCards 600).toList =
        (newCards 600).toList ++ ' ' :: (newCards 600).toList := by
      simp [String.toList_append]
    have hclauses : newClauses 600 ++ newClauses 600 = newClauses 1200 :=
      List.replicate_append_replicate
    refine of_text_eq_ok_iff.2 ⟨_, ?_, rfl⟩
    rw [htext, clauses_append (clauses_new_cards 600) (clauses_new_cards 600), hclauses]
  exact ⟨_, _, hread, hboth, (new_cards_listed_iff hread).2 (by decide),
    mt (new_cards_listed_iff hboth).1 (by decide)⟩

end CardBrowser.Search
