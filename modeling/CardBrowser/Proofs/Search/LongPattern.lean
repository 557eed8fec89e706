import Mathlib
import CardBrowser.Proofs.Search.Accepted
import CardBrowser.Proofs.Search.Evaluation
import CardBrowser.Proofs.Search.Shape

/-!
# Patterns that are too long

A database refuses a pattern that is too long only where some choice of rows comes to it. The
conditions of a search text hold together, so a card of which they all hold is a choice that comes
to every pattern. Therefore a text with a long pattern lists no card at all, whatever the order in
which its conditions are tried: `short_of_listed`.
-/

namespace CardBrowser.Search

open CardBrowser.Database CardBrowser.Sql CardBrowser.Text

/-! ## Choices of rows -/

section Choices

variable {tables : Tables} {parameters : List Value} {frame : Frame} {card : Card}
  {note : StoredNote} {condition long asked : Expr} {conditions : List Expr}

/-- Where a conjunction holds, each of its parts does. -/
theorem holds_conjuncts (h : holds tables parameters frame condition = true) :
    ∀ part ∈ conjuncts condition, holds tables parameters frame part = true := by
  have hand : ∀ a b : Value, ((BinaryOp.and.apply a b).truth? == some true) = true →
      (a.truth? == some true) = true ∧ (b.truth? == some true) = true := by
    intro a b
    show ((Value.ofBool? (and? a.truth? b.truth?)).truth? == some true) = true → _
    rcases a.truth? with _ | _ | _ <;> rcases b.truth? with _ | _ | _ <;> decide
  exact forall_conjuncts (hand _ _) id h

/-- The parts of a conjunction read what the conjunction reads. -/
theorem reads_only_conjuncts {names : List String} (h : condition.readsOnly names = true) :
    ∀ part ∈ conjuncts condition, part.readsOnly names = true :=
  forall_conjuncts Bool.and_eq_true_iff.1 id h

/-- Where all conditions hold that are tried in turn, a long pattern among them is come to. -/
theorem tries_long_pattern_of_holds
    (hholds : ∀ condition ∈ conditions, holds tables parameters frame condition = true)
    (hmem : long ∈ conditions) (hlong : hasLongPattern parameters long = true) :
    triesLongPattern tables parameters frame conditions = true := by
  induction conditions with
  | nil => cases hmem
  | cons condition later ih =>
      obtain ⟨hcondition, hlater⟩ := List.forall_mem_cons.1 hholds
      unfold triesLongPattern
      rcases List.mem_cons.1 hmem with rfl | hmem
      · rw [hlong, Bool.true_or]
      · rw [hcondition, ih hlater hmem, Bool.true_and, Bool.or_true]

/-- The shortest of some lists is one of them. -/
theorem shortest_mem (list : List Int) (lists : List (List Int)) :
    lists.foldl shorter list ∈ list :: lists := by
  induction lists generalizing list with
  | nil => exact List.mem_singleton.2 rfl
  | cons other lists ih =>
      have hshorter : shorter list other = list ∨ shorter list other = other := by
        unfold shorter
        split
        · exact Or.inr rfl
        · exact Or.inl rfl
      rcases List.mem_cons.1 (ih (shorter list other)) with hmem | hmem
      · rw [List.foldl_cons, hmem]
        rcases hshorter with h | h <;> simp [h]
      · exact List.mem_cons_of_mem _ (List.mem_cons_of_mem _ hmem)

/-- What is asked of the note itself has the value that it has of the card. -/
theorem eval_on_note (hid : note.id = card.noteId) (h : onNote? condition = some asked) :
    asked.eval tables parameters [[("n", note.row)]] =
      condition.eval tables parameters [cardFrame card note] := by
  fun_induction onNote? condition generalizing asked with
  | case1 ids =>
      cases h
      have hcard : (Expr.column (some "c") "nid").eval tables parameters [cardFrame card note] =
          .integer card.noteId := eval_card_column (by simp [Card.row])
      have hnote : (Expr.column (some "n") "id").eval tables parameters [[("n", note.row)]] =
          .integer note.id := by
        simp [Expr.eval, Scope.resolve, Frame.candidates, Row.get?, StoredNote.row, same_name_self,
          Except.toOption]
      show memberValue (Expr.eval _ _ _ _) ids = memberValue (Expr.eval _ _ _ _) ids
      rw [hcard, hnote, hid]
  | case2 operand ih =>
      obtain ⟨inner, hinner, rfl⟩ := Option.map_eq_some_iff.1 h
      simp only [Expr.eval, ih hinner]
  | case3 inner ih => exact ih h
  | case4 => cases h

/-- What is tried on notes that are looked up holds of the note of a card of which all conditions
hold. -/
theorem holds_note_tries {tries : List Expr} (hid : note.id = card.noteId)
    (hholds : ∀ condition ∈ conditions,
      holds tables parameters (cardFrame card note) condition = true)
    (h : noteTries? conditions = some tries) :
    ∀ tried ∈ tries, holds tables parameters [("n", note.row)] tried = true := by
  have hasked : ∀ condition ∈ conditions, ∀ asked, onNote? condition = some asked →
      holds tables parameters [("n", note.row)] asked = true := by
    intro condition hmem asked hnote
    have hcondition := hholds condition hmem
    unfold holds at hcondition ⊢
    rwa [eval_on_note hid hnote]
  unfold noteTries? at h
  dsimp only at h
  split at h
  · cases h
  · rename_i list lists hlists
    split at h
    · cases h
      intro tried hmem
      obtain ⟨condition, hcondition, hnote⟩ := List.mem_filterMap.1 hmem
      exact hasked condition hcondition tried hnote
    · cases h
      have hshortest := shortest_mem list lists
      rw [← hlists] at hshortest
      obtain ⟨condition, hcondition, hlist⟩ := List.mem_filterMap.1 hshortest
      refine List.forall_mem_singleton.2 (hasked condition hcondition _ ?_)
      split at hlist
      · cases hlist
        rfl
      · cases hlist

/-- A condition that reads the card or the note and is not about the card holds of the note
alone. -/
theorem holds_of_note (hreads : condition.readsOnly shortNames = true)
    (habout : isAbout "c" condition = false)
    (h : holds tables parameters (cardFrame card note) condition = true) :
    holds tables parameters [("n", note.row)] condition = true := by
  have hnote : condition.readsOnly ["n"] = true := by
    by_contra hnot
    have hnames : ∀ name ∈ shortNames, name = "c" ∨ name ∈ ["n"] := by decide
    have htext := mentions_alias_of_reads (by decide) hnames hreads (Bool.eq_false_iff.2 hnot)
    rw [show mentionsAlias condition.text "c" = false from habout] at htext
    cases htext
  have hcandidates : ∀ qualifier ∈ ["n"], ∀ column,
      Frame.candidates [("n", note.row)] (some qualifier) column =
        Frame.candidates (cardFrame card note) (some qualifier) column := by
    intro qualifier hmem column
    rw [List.mem_singleton.1 hmem]
    have hname : sameName "c" "n" = false := by decide
    simp [cardFrame, Frame.candidates, List.filterMap_cons, hname]
  unfold holds at h ⊢
  rwa [Expr.eval_frame_congr hnote hcandidates]

/-- A choice of rows on which everything holds that is tried first comes to a long pattern that is
tried there. -/
theorem meets_long_pattern_of_tries {sources looked : From}
    (hfirst : firstTries sources (conjuncts condition) = (looked, conditions))
    (hframe : frame ∈ frames looked)
    (hholds : ∀ tried ∈ conditions, holds tables parameters frame tried = true)
    (hmem : long ∈ conditions) (hlong : hasLongPattern parameters long = true) :
    meetsLongPattern tables parameters sources condition = true := by
  unfold meetsLongPattern
  rw [hfirst]
  exact Bool.and_eq_true_iff.2 ⟨List.any_eq_true.2 ⟨long, hmem, hlong⟩,
    List.any_eq_true.2 ⟨frame, hframe, tries_long_pattern_of_holds hholds hmem hlong⟩⟩

/-- A card and its note of which a condition holds come to a long pattern that is not about the
card. -/
theorem meets_long_pattern_of_holds {cards : Table Card} {notes : Table StoredNote}
    (hcard : card ∈ cards.rows) (hnote : note ∈ notes.rows) (hid : note.id = card.noteId)
    (hreads : condition.readsOnly shortNames = true)
    (hholds : holds tables parameters (cardFrame card note) condition = true)
    (hmem : long ∈ conjuncts condition) (hlong : hasLongPattern parameters long = true)
    (habout : isAbout "c" long = false) :
    meetsLongPattern tables parameters [("c", cardSource cards), ("n", noteSource notes)]
      condition = true := by
  have hparts := holds_conjuncts hholds
  cases htries : firstTries [("c", cardSource cards), ("n", noteSource notes)]
      (conjuncts condition) with
  | mk sources conditions =>
  have hfirst := htries
  unfold firstTries at htries
  split at htries
  · rename_i tries hnotes _
    cases htries
    -- Notes are looked up first, so the note of the card is a choice by itself.
    have hframe : [("n", note.row)] ∈ frames [("n", noteSource notes)] := by
      simpa [frames, noteSource] using ⟨note, hnote, rfl⟩
    refine meets_long_pattern_of_tries hfirst hframe ?_ ?_ hlong
    · refine List.forall_mem_append.2 ⟨holds_note_tries hid hparts hnotes, fun tried htried => ?_⟩
      obtain ⟨hpart, hnot⟩ := List.mem_filter.1 htried
      exact holds_of_note (reads_only_conjuncts hreads tried hpart) (by simpa using hnot)
        (hparts tried hpart)
    · exact List.mem_append_right _ (List.mem_filter.2 ⟨hmem, by simp [habout]⟩)
  · cases htries
    have hframe : cardFrame card note ∈
        frames [("c", cardSource cards), ("n", noteSource notes)] := by
      simp only [frames, cardSource, noteSource, cardFrame, List.mem_flatMap, List.mem_map]
      exact ⟨card.row, ⟨card, hcard, rfl⟩, [("n", note.row)],
        ⟨note.row, ⟨note, hnote, rfl⟩, [], List.mem_singleton.2 rfl, rfl⟩, rfl⟩
    refine meets_long_pattern_of_tries hfirst hframe ?_ ?_ hlong
    · exact List.forall_mem_append.2
        ⟨fun tried htried => hparts tried (List.mem_filter.1 htried).1,
          fun tried htried => hparts tried (List.mem_filter.1 htried).1⟩
    · cases hn : isAbout "n" long with
      | false => exact List.mem_append_left _ (List.mem_filter.2 ⟨hmem, by simp [hn]⟩)
      | true => exact List.mem_append_right _ (List.mem_filter.2 ⟨hmem, hn⟩)

end Choices

/-! ## The patterns of a search text -/

section Texts

variable {today : Int} {next : Nat} {parameters : List Value} {condition : Expr} {text : String}
  {predicate : Predicate} {database : Database} {joined : Bool}

/-- A comparison of a column of the note with a pattern is not about the card. -/
theorem not_about_card_like {name : String} (hname : name ∈ ["sfld", "flds", "tags"]) (k : Nat) :
    isAbout "c" (.like (noteColumn name) (.placeholder k)) = false := by
  have hbefore : ∀ name ∈ ["sfld", "flds", "tags"],
      (("n" ++ "." ++ name ++ " LIKE " ++ "?").toList.getLast?.all
        fun c => isNamePart c || c == '.') = false ∧
      mentionsAlias ("n" ++ "." ++ name ++ " LIKE " ++ "?") "c" = false := by decide
  have hafter : '.' ∉ (toString k ++ " ESCAPE '\\'").toList := by
    rw [String.toList_append, List.mem_append, not_or]
    exact ⟨dot_not_mem_natural k, by decide⟩
  obtain ⟨hlast, hmentions⟩ := hbefore name hname
  have hsplit : "n" ++ "." ++ name ++ " LIKE " ++ ("?" ++ toString k) ++ " ESCAPE '\\'" =
      "n" ++ "." ++ name ++ " LIKE " ++ "?" ++ (toString k ++ " ESCAPE '\\'") := by
    simp only [String.append_assoc]
  show mentionsAlias ("n" ++ "." ++ name ++ " LIKE " ++ ("?" ++ toString k) ++ " ESCAPE '\\'") "c"
    = false
  rw [hsplit, mentions_alias_append_of_no_dot hlast hafter, hmentions]

/-- A condition in parentheses is about what it is about without them, also if it is negated. -/
theorem about_paren (shortName : String) (inner : Expr) :
    isAbout shortName (.paren inner) = isAbout shortName inner ∧
      isAbout shortName (.not (.paren inner)) = isAbout shortName inner := by
  refine ⟨mentions_alias_paren, ?_⟩
  have hnot : "NOT " ++ ("(" ++ inner.text ++ ")") = "NOT (" ++ inner.text ++ ")" := by
    rw [show "NOT (" = "NOT " ++ "(" by decide]
    simp only [String.append_assoc]
  show mentionsAlias ("NOT " ++ ("(" ++ inner.text ++ ")")) shortName = _
  rw [hnot]
  exact mentions_alias_not_paren

/-- The part of a clause with a long pattern is not about the card. -/
theorem exists_long_part_clause (clause : Clause)
    (h : hasLongPattern parameters (clause.condition today next).1 = true) :
    ∃ long ∈ conjuncts (clause.condition today next).1,
      hasLongPattern parameters long = true ∧ isAbout "c" long = false := by
  obtain ⟨negated, term⟩ := clause
  cases term with
  | text value =>
      have htext : isAbout "c" (.binary .or (.like (noteColumn "sfld") (.placeholder next))
          (.like (noteColumn "flds") (.placeholder next))) = false := by
        unfold isAbout
        refine (mentions_alias_between (by decide) _ _).trans (Bool.or_eq_false_iff.2 ⟨?_, ?_⟩)
        · exact not_about_card_like (by decide) next
        · exact not_about_card_like (by decide) next
      cases negated with
      | false => exact ⟨_, List.mem_singleton.2 rfl, h, htext⟩
      | true =>
          exact ⟨_, List.mem_singleton.2 rfl, h,
            (about_paren _ _).2.trans ((about_paren _ _).1.trans htext)⟩
  | tag value =>
      have htag : isAbout "c" (.like (noteColumn "tags") (.placeholder next)) = false :=
        not_about_card_like (by decide) next
      cases negated with
      | false => exact ⟨_, List.mem_singleton.2 rfl, h, htag⟩
      | true => exact ⟨_, List.mem_singleton.2 rfl, h, (about_paren _ _).2.trans htag⟩
  | state wanted => cases negated <;> cases wanted <;> cases h
  | _ => cases negated <;> cases h

/-- The condition of a search text with a long pattern has a part with one that is not about the
card. -/
theorem exists_long_part (hpredicate : Predicate.ofText today text = .ok predicate)
    (h : hasLongPattern parameters predicate.condition = true) :
    ∃ long ∈ conjuncts predicate.condition,
      hasLongPattern parameters long = true ∧ isAbout "c" long = false := by
  obtain ⟨found, -, rfl⟩ := of_text_eq_ok_iff.1 hpredicate
  let hasPart (whole : Expr) : Prop := hasLongPattern parameters whole = true →
    ∃ long ∈ conjuncts whole, hasLongPattern parameters long = true ∧ isAbout "c" long = false
  refine conjunction_induction hasPart hasPart (fun h => by cases h) (fun _ => id) ?_ ?_ h
  · intro left right hleft hright hboth
    rcases Bool.or_eq_true_iff.1 hboth with hlong | hlong
    · obtain ⟨long, hmem, hlong⟩ := hleft hlong
      exact ⟨long, List.mem_append_left _ hmem, hlong⟩
    · obtain ⟨long, hmem, hlong⟩ := hright hlong
      exact ⟨long, List.mem_append_right _ hmem, hlong⟩
  · intro condition hmem
    obtain ⟨clause, -, next, rfl⟩ := mem_conditions hmem
    exact exists_long_part_clause clause

/-- A term compares with a pattern that is too long. -/
def Term.isLong : Term → Bool
  | .text value => isLongPattern (.text (String.ofList ('%' :: escapePattern value ++ ['%'])))
  | .tag value =>
    isLongPattern (.text (String.ofList ('%' :: ' ' :: escapePattern value ++ [' ', '%'])))
  | _ => false

/-- The condition of a clause has a long pattern if its term does. -/
theorem has_long_pattern_clause {earlier : List Value} (clause : Clause)
    (h : earlier ++ (clause.condition today (earlier.length + 1)).2 <+: parameters) :
    hasLongPattern parameters (clause.condition today (earlier.length + 1)).1 =
      clause.term.isLong := by
  have hterm : hasLongPattern parameters (clause.condition today (earlier.length + 1)).1 =
      hasLongPattern parameters (clause.term.condition today (earlier.length + 1)).1 := by
    unfold Clause.condition
    dsimp only
    split <;> rfl
  rw [hterm]
  obtain ⟨negated, term⟩ := clause
  cases term with
  | text value =>
      have hpattern := congrArg isLongPattern (parameter_eq h)
      exact (congrArg₂ (· || ·) hpattern hpattern).trans (Bool.or_self _)
  | tag value => exact congrArg isLongPattern (parameter_eq h)
  | state wanted => cases wanted <;> rfl
  | _ => rfl

/-- The conditions of clauses have a long pattern if a term does. -/
theorem has_long_pattern_conditions {earlier : List Value} (clauses : List Clause)
    (h : earlier ++ (conditions today (earlier.length + 1) clauses).2 <+: parameters) :
    (conditions today (earlier.length + 1) clauses).1.any (hasLongPattern parameters) =
      clauses.any (·.term.isLong) := by
  induction clauses generalizing earlier with
  | nil => rfl
  | cons clause clauses ih =>
      rw [conditions_cons_after] at h ⊢
      rw [← List.append_assoc] at h
      rw [List.any_cons, List.any_cons, ih h,
        has_long_pattern_clause clause ((List.prefix_append _ _).trans h)]

/-- A conjunction has a long pattern if one of its parts does. -/
theorem has_long_pattern_conjunction (conditions : List Expr) :
    hasLongPattern parameters (conjunction conditions) =
      conditions.any (hasLongPattern parameters) := by
  cases conditions with
  | nil => rfl
  | cons condition conditions =>
      rw [List.any_cons]
      show hasLongPattern parameters (conditions.foldl (.binary .and) condition) = _
      -- The conjunction is built from the left, so what is built so far is generalized.
      induction conditions generalizing condition with
      | nil => exact (Bool.or_false _).symm
      | cons other conditions ih =>
          rw [List.foldl_cons, ih, List.any_cons, ← Bool.or_assoc]
          rfl

/-- The condition of a search text has a long pattern if a term does. -/
theorem has_long_pattern_clauses (clauses : List Clause) :
    hasLongPattern (Predicate.ofClauses today clauses).parameters
        (Predicate.ofClauses today clauses).condition = clauses.any (·.term.isLong) :=
  (has_long_pattern_conjunction _).trans
    (@has_long_pattern_conditions today _ [] clauses (List.prefix_refl _))

/-- The filter of a search text has a long pattern if its condition does. -/
theorem has_long_pattern_filter (hpredicate : Predicate.ofText today text = .ok predicate) :
    hasLongPattern parameters (Selection.ofPredicate predicate joined).filter =
      hasLongPattern parameters predicate.condition := by
  unfold Selection.filter Selection.ofPredicate
  rw [guarded_of_text hpredicate]
  cases joined with
  | false => rfl
  | true => exact Bool.false_or _

/-- The parts of the condition of a search text are parts of its filter. -/
theorem mem_conjuncts_filter {part : Expr}
    (hpredicate : Predicate.ofText today text = .ok predicate)
    (h : part ∈ conjuncts predicate.condition) :
    part ∈ conjuncts (Selection.ofPredicate predicate joined).filter := by
  unfold Selection.filter Selection.ofPredicate
  rw [guarded_of_text hpredicate]
  cases joined with
  | false => exact h
  | true => exact List.mem_append_right _ h

/-- The condition of a plain query that runs is accepted. -/
theorem accepted_of_listed {ids : List Int}
    (hpredicate : Predicate.ofText today text = .ok predicate)
    (hids : database.cardIds ⟨Selection.ofPredicate predicate joined, none⟩ = .ok ids) :
    ∃ sources, database.sources (Selection.ofPredicate predicate joined).sources = .ok sources ∧
      (plainQuery predicate joined).Accepted database sources := by
  unfold cardIds at hids
  obtain ⟨ordered, hordered, hids⟩ := Except.bind_eq_ok_iff.1 hids
  cases hordered
  obtain ⟨rows, hrows, -⟩ := Except.bind_eq_ok_iff.1 hids
  obtain ⟨read, hread, sources, hsources, haccepted, -⟩ := run_eq_ok_iff.1 hrows
  obtain ⟨results, hresults, hread⟩ := Except.bind_eq_ok_iff.1 hread
  obtain ⟨condition, hcondition, hread⟩ := Except.bind_eq_ok_iff.1 hread
  obtain rfl := Expr.eq_of_expand (reads_only_filter (reads_only_of_text hpredicate) joined)
    hcondition
  cases hresults
  cases hread
  exact ⟨sources, hsources, haccepted⟩

/-- Where a plain query lists a card, the text it is made of has no long pattern. -/
theorem short_of_listed {ids : List Int} {id : Int} (hshows : database.ShowsCards)
    (hpredicate : Predicate.ofText today text = .ok predicate)
    (hjoined : joined = true ∨ predicate.mentions "n" = false)
    (hids : database.cardIds ⟨Selection.ofPredicate predicate joined, none⟩ = .ok ids)
    (hmem : id ∈ ids) : hasLongPattern predicate.parameters predicate.condition = false := by
  have hreads := reads_only_filter (reads_only_of_text hpredicate) joined
  cases joined with
  | false =>
      exact not_has_long_pattern_of_card hpredicate (reads_card_of_not_mentions
        (reads_only_of_text hpredicate) (hjoined.resolve_left (by decide)))
  | true =>
      by_contra hlong
      obtain ⟨long, hpart, hpattern, habout⟩ := exists_long_part hpredicate
        (Bool.eq_true_of_not_eq_false hlong)
      obtain ⟨sources, hsources, haccepted⟩ := accepted_of_listed hpredicate hids
      obtain ⟨cards, hcards, notes, hnotes, rfl⟩ := (sources_eq_ok_iff hshows).1 hsources
      have hfound := mem_found_ids.1 ((card_ids_perm hshows hreads hids).mem_iff.1 hmem)
      obtain ⟨frame, hframe, hcondition⟩ := (Option.any_eq_true _ _).1 hfound
      obtain ⟨card, hcard, hframe⟩ := Option.bind_eq_some_iff.1 hframe
      rw [hcards, Option.bind_some] at hcard
      obtain ⟨note, hnote, rfl⟩ := Option.map_eq_some_iff.1 hframe
      rw [hnotes, Option.bind_some] at hnote
      obtain ⟨hcard, -⟩ := Table.find?_eq_some_iff.1 hcard
      obtain ⟨hnote, hid⟩ := Table.find?_eq_some_iff.1 hnote
      have hholds := (holds_joined card note rfl).trans
        (Bool.and_eq_true_iff.2 ⟨hcondition, beq_iff_eq.2 hid⟩)
      have hmeets := meets_long_pattern_of_holds hcard hnote hid hreads hholds
        (mem_conjuncts_filter hpredicate hpart) hpattern habout
      exact absurd (hmeets.symm.trans haccepted.patterns) (by decide)

end Texts

end CardBrowser.Search
