import Mathlib
import CardBrowser.Proofs.Database.Columns
import CardBrowser.Proofs.Search.Found
import CardBrowser.Proofs.Search.Meaning

/-!
# When the query of a search text runs

A database may refuse a query for many reasons, of which two remain for the condition of a search
text: it has too many levels or a pattern that is too long. Otherwise its names are those of columns
and it has as many placeholders as values, so the query runs: `card_ids_of_text`.
-/

namespace CardBrowser.Search

open CardBrowser.Database CardBrowser.Sql

variable {today : Int} {next count : Nat}

/-! ## Names -/

/-- The columns that conditions of search texts ask for. -/
def searchColumns : List (String × String) :=
  [("c", "id"), ("c", "nid"), ("c", "did"), ("c", "ord"), ("c", "type"), ("c", "queue"),
   ("c", "due"), ("n", "id"), ("n", "tags"), ("n", "flds"), ("n", "sfld")]

/-- The columns that a term asks for. -/
theorem columns_term (term : Term) : (term.condition today next).1.columns ⊆ searchColumns := by
  cases term with
  | text => exact (by decide : [("n", "sfld"), ("n", "flds")] ⊆ searchColumns)
  | tag => exact (by decide : [("n", "tags")] ⊆ searchColumns)
  | notes => exact (by decide : [("c", "nid")] ⊆ searchColumns)
  | cards => exact (by decide : [("c", "id")] ⊆ searchColumns)
  | deck => exact (by decide : [("c", "did")] ⊆ searchColumns)
  | ordinal => exact (by decide : [("c", "ord")] ⊆ searchColumns)
  | state wanted =>
      cases wanted with
      | due => exact (by decide : [("c", "queue"), ("c", "due")] ⊆ searchColumns)
      | learn => exact (by decide : [("c", "queue")] ⊆ searchColumns)
      | suspended => exact (by decide : [("c", "queue")] ⊆ searchColumns)
      | _ => exact (by decide : [("c", "type")] ⊆ searchColumns)

/-- The columns that a clause asks for are those of its term. -/
theorem columns_clause (clause : Clause) :
    (clause.condition today next).1.columns ⊆ searchColumns := by
  have hterm : (clause.term.condition today next).1.columns ⊆ searchColumns :=
    columns_term clause.term
  unfold Clause.condition
  dsimp only
  split_ifs
  · exact hterm
  · exact hterm

/-- The columns that a conjunction of clauses asks for. -/
theorem columns_clauses (clauses : List Clause) :
    (conjunction (conditions today next clauses).1).columns ⊆ searchColumns := by
  refine conjunction_induction (·.columns ⊆ searchColumns) (·.columns ⊆ searchColumns)
    (List.nil_subset _) (fun _ => id) (fun _ _ => List.append_subset_of_subset_of_subset) ?_
  intro condition hmem
  obtain ⟨clause, -, next, rfl⟩ := mem_conditions hmem
  exact columns_clause clause

/-! ## Placeholders -/

/-- A term has no placeholder, or the next one for its only value. -/
theorem placeholders_term (term : Term) :
    ((term.condition today next).2.length = 0 ∧ (term.condition today next).1.placeholders = 0) ∨
      ((term.condition today next).2.length = 1 ∧
        (term.condition today next).1.placeholders = next) := by
  cases term with
  | text value =>
      refine Or.inr ⟨rfl, ?_⟩
      show max (max 0 next) (max 0 next) = next
      omega
  | state wanted =>
      cases wanted with
      | due =>
          refine Or.inr ⟨rfl, ?_⟩
          show max 0 (max 0 next) = next
          omega
      | _ => exact Or.inl ⟨rfl, rfl⟩
  | notes => exact Or.inl ⟨rfl, rfl⟩
  | cards => exact Or.inl ⟨rfl, rfl⟩
  | _ =>
      refine Or.inr ⟨rfl, ?_⟩
      show max 0 next = next
      omega

/-- A clause brings as many new placeholders as values. -/
theorem placeholders_clause (clause : Clause) :
    max count (clause.condition today (count + 1)).1.placeholders =
      count + (clause.condition today (count + 1)).2.length := by
  have hvalues : (clause.condition today (count + 1)).2 =
      (clause.term.condition today (count + 1)).2 := rfl
  have hplaceholders : (clause.condition today (count + 1)).1.placeholders =
      (clause.term.condition today (count + 1)).1.placeholders := by
    unfold Clause.condition
    dsimp only
    split_ifs <;> rfl
  rw [hvalues, hplaceholders]
  rcases @placeholders_term today (count + 1) clause.term with ⟨hlength, hcount⟩ | ⟨hlength, hcount⟩
  · omega
  · omega

/-- The greatest placeholder of clauses is the last of their values. -/
theorem placeholders_conditions (clauses : List Clause) :
    ((conditions today (count + 1) clauses).1.map Expr.placeholders).foldl max count =
      count + (conditions today (count + 1) clauses).2.length := by
  induction clauses generalizing count with
  | nil => rfl
  | cons clause clauses ih =>
      have hnext : count + 1 + (clause.condition today (count + 1)).2.length =
          count + (clause.condition today (count + 1)).2.length + 1 := by omega
      rw [conditions_cons, List.map_cons, List.foldl_cons, placeholders_clause, hnext, ih,
        List.length_append, Nat.add_assoc]

/-- The greatest placeholder of a conjunction is that of one of its parts. -/
theorem placeholders_conjunction (conditions : List Expr) :
    (conjunction conditions).placeholders = (conditions.map Expr.placeholders).foldl max 0 := by
  cases conditions with
  | nil => rfl
  | cons condition conditions =>
      rw [List.map_cons, List.foldl_cons, Nat.zero_max]
      show (conditions.foldl (.binary .and) condition).placeholders = _
      induction conditions generalizing condition with
      | nil => rfl
      | cons other conditions ih => exact ih (.binary .and condition other)

/-- A predicate of clauses has as many placeholders as values. -/
theorem placeholders_clauses (clauses : List Clause) :
    (Predicate.ofClauses today clauses).condition.placeholders =
      (Predicate.ofClauses today clauses).parameters.length := by
  have hcount := @placeholders_conditions today 0 clauses
  rw [← placeholders_conjunction] at hcount
  exact hcount.trans (Nat.zero_add _)

/-! ## Patterns -/

variable {tables : Tables} {parameters : List Value} {sources : From} {condition : Expr}

/-- Where no value is a long pattern, no placeholder is one. -/
theorem not_long_parameter (h : ∀ value ∈ parameters, isLongPattern value = false) (number : Nat) :
    isLongPattern (parameter parameters number) = false := by
  have hbound : ∀ value, isLongPattern value = false → isLongPattern value.bound = false := by
    intro value hvalue
    cases value with
    | real x => cases x <;> exact hvalue
    | _ => exact hvalue
  unfold parameter
  split_ifs
  · rfl
  · refine hbound _ ?_
    rw [List.getD_eq_getElem?_getD]
    cases hvalue : parameters[number - 1]? with
    | none => rfl
    | some value => exact h value (List.mem_of_getElem? hvalue)

/-- Where no value is a long pattern, no condition has one. -/
theorem not_has_long_pattern (h : ∀ value ∈ parameters, isLongPattern value = false)
    (condition : Expr) : hasLongPattern parameters condition = false := by
  fun_induction hasLongPattern parameters condition with
  | case1 inner ih => exact ih
  | case2 operand ih => exact ih
  | case3 op left right hleft hright => rw [hleft, hright, Bool.or_self]
  | case4 operand number => exact not_long_parameter h number
  | case5 => rfl

/-- The conditions that hold together have no long pattern if their conjunction has none. -/
theorem not_has_long_pattern_conjuncts (h : hasLongPattern parameters condition = false) :
    ∀ part ∈ conjuncts condition, hasLongPattern parameters part = false :=
  forall_conjuncts Bool.or_eq_false_iff.1 id h

/-- What is asked of a note for its card has no pattern. -/
theorem not_has_long_pattern_on_note {asked : Expr} (h : onNote? condition = some asked) :
    hasLongPattern parameters asked = false := by
  fun_induction onNote? condition generalizing asked with
  | case1 ids =>
      cases h
      rfl
  | case2 operand ih =>
      obtain ⟨inner, hinner, rfl⟩ := Option.map_eq_some_iff.1 h
      show hasLongPattern parameters inner = false
      exact ih hinner
  | case3 inner ih => exact ih h
  | case4 => cases h

/-- Where a condition has no long pattern, no choice of rows comes to one. -/
theorem not_meets_long_pattern (h : hasLongPattern parameters condition = false) :
    meetsLongPattern tables parameters sources condition = false := by
  have hnone : (firstTries sources (conjuncts condition)).2.any (hasLongPattern parameters) =
      false := by
    refine List.any_eq_false.2 fun tried hmem => Bool.eq_false_iff.1 ?_
    rcases mem_first_tries hmem with hmem | ⟨condition, hnote⟩
    · exact not_has_long_pattern_conjuncts h tried hmem
    · exact not_has_long_pattern_on_note hnote
  unfold meetsLongPattern
  dsimp only
  rw [hnone, Bool.false_and]

/-- Only notes are compared with patterns. -/
theorem not_has_long_pattern_of_card {text : String} {predicate : Predicate}
    (hpredicate : Predicate.ofText today text = .ok predicate)
    (hreads : predicate.condition.readsOnly ["c"] = true) :
    hasLongPattern parameters predicate.condition = false := by
  have hterm : ∀ (term : Term) (next : Nat),
      (term.condition today next).1.readsOnly ["c"] = true →
        hasLongPattern parameters (term.condition today next).1 = false := by
    intro term next hreads
    cases term with
    | text value => cases hreads
    | tag value => cases hreads
    | state wanted => cases wanted <;> rfl
    | _ => rfl
  have hclause : ∀ (clause : Clause) (next : Nat),
      (clause.condition today next).1.readsOnly ["c"] = true →
        hasLongPattern parameters (clause.condition today next).1 = false := by
    intro clause next
    have hterm := hterm clause.term next
    unfold Clause.condition
    dsimp only
    split_ifs
    · exact hterm
    · exact hterm
  obtain ⟨found, -, rfl⟩ := of_text_eq_ok_iff.1 hpredicate
  refine conjunction_induction
    (fun whole => whole.readsOnly ["c"] = true → hasLongPattern parameters whole = false)
    (fun part => part.readsOnly ["c"] = true → hasLongPattern parameters part = false)
    (fun _ => rfl) (fun _ => id) ?_ ?_ hreads
  · intro left right hleft hright hboth
    obtain ⟨hl, hr⟩ := Bool.and_eq_true_iff.1 hboth
    exact Bool.or_eq_false_iff.2 ⟨hleft hl, hright hr⟩
  · intro condition hmem
    obtain ⟨clause, -, next, rfl⟩ := mem_conditions hmem
    exact hclause clause next

/-! ## Queries -/

variable {database : Database} {notes : Table StoredNote} {cards : Table Card} {text : String}
  {predicate : Predicate} {selection : Selection} {joined : Bool} {shortName name : String}

/-- A row of samples has every column of its table. -/
theorem resolve_sample (source : Source) {frame : Frame}
    (hframe : (frame.filter fun entry => sameName entry.1 shortName) =
      [(shortName, source.sample)])
    (hnames : source.columns.Pairwise fun a b => sameName a b = false)
    (hname : name ∈ source.columns) :
    Scope.resolve (some shortName) name [frame] = .ok .null := by
  refine resolve_of_mem hframe ?_ (List.mem_map.2 ⟨name, hname, rfl⟩)
  rw [names_sample]
  exact hnames

/-- A column of cards is found in every selection. -/
theorem resolve_card_column (hshows : database.ShowsCards)
    (hsources : database.sources selection.sources = .ok sources)
    (hname : name ∈ (default : Card).row.map Prod.fst) :
    Scope.resolve (some "c") name [sampleFrame sources] = .ok .null := by
  have hnames : sameName "n" "c" = false := by decide
  obtain ⟨cards, -, hsources⟩ := (sources_eq_ok_iff hshows).1 hsources
  refine resolve_sample (cardSource cards) ?_ (card_names default) hname
  split at hsources
  · obtain ⟨notes, -, rfl⟩ := hsources
    simp [sampleFrame, hnames, same_name_self]
  · subst hsources
    simp [sampleFrame, same_name_self]

/-- The columns that search texts ask for are found where notes are joined, and those of cards
without notes as well. -/
theorem resolve_search_column {column : String × String} (hshows : database.ShowsCards)
    (hsources : database.sources selection.sources = .ok sources) (hcolumn : column ∈ searchColumns)
    (hjoined : selection.joined = true ∨ column.1 = "c") :
    ∃ value, Scope.resolve (some column.1) column.2 [sampleFrame sources] = .ok value := by
  have hknown : ∀ column ∈ searchColumns,
      (column.1 = "c" ∧ column.2 ∈ (default : Card).row.map Prod.fst) ∨
        (column.1 = "n" ∧ column.2 ∈ (default : StoredNote).row.map Prod.fst) := by
    decide
  refine ⟨.null, ?_⟩
  rcases hknown column hcolumn with ⟨hshort, hname⟩ | ⟨hshort, hname⟩
  · rw [hshort]
    exact resolve_card_column hshows hsources hname
  · have hnames : sameName "c" "n" = false := by decide
    obtain ⟨cards, -, hsources⟩ := (sources_eq_ok_iff hshows).1 hsources
    rw [if_pos (hjoined.resolve_right (by simp [hshort]))] at hsources
    obtain ⟨notes, -, rfl⟩ := hsources
    rw [hshort]
    exact resolve_sample (noteSource notes) (by simp [sampleFrame, hnames, same_name_self])
      (note_names default) hname

/-- The filter of a search text asks for columns that are found. -/
theorem columns_filter (hpredicate : Predicate.ofText today text = .ok predicate)
    (hjoined : joined = true ∨ predicate.mentions "n" = false) :
    ∀ column ∈ (Selection.ofPredicate predicate joined).filter.columns,
      column ∈ searchColumns ∧ (joined = true ∨ column.1 = "c") := by
  have hcolumns : predicate.condition.columns ⊆ searchColumns := by
    obtain ⟨found, -, rfl⟩ := of_text_eq_ok_iff.1 hpredicate
    exact columns_clauses found
  intro column hmem
  unfold Selection.filter Selection.ofPredicate at hmem
  rw [guarded_of_text hpredicate] at hmem
  cases joined with
  | true =>
      refine ⟨?_, Or.inl rfl⟩
      rcases List.mem_append.1 hmem with hmem | hmem
      · exact (by decide : [("c", "nid"), ("n", "id")] ⊆ searchColumns) hmem
      · exact hcolumns hmem
  | false =>
      have hreads := reads_card_of_not_mentions (reads_only_of_text hpredicate)
        (hjoined.resolve_left (by decide))
      have hcard := Expr.qualifier_of_mem_columns hreads column hmem
      exact ⟨hcolumns hmem, Or.inr (List.mem_singleton.1 hcard)⟩

/-- The filter of a search text has as many placeholders as there are values. -/
theorem placeholders_filter (hpredicate : Predicate.ofText today text = .ok predicate) :
    (Selection.ofPredicate predicate joined).filter.placeholders = predicate.parameters.length := by
  have hcount : predicate.condition.placeholders = predicate.parameters.length := by
    obtain ⟨found, -, rfl⟩ := of_text_eq_ok_iff.1 hpredicate
    exact placeholders_clauses found
  unfold Selection.filter Selection.ofPredicate
  rw [guarded_of_text hpredicate, ← hcount]
  cases joined with
  | true => exact Nat.zero_max _
  | false => rfl

/-- The names in the filter of a search text are resolved. -/
theorem check_filter_of_text (hshows : database.ShowsCards)
    (hsources : database.sources (Selection.ofPredicate predicate joined).sources = .ok sources)
    (hpredicate : Predicate.ofText today text = .ok predicate)
    (hjoined : joined = true ∨ predicate.mentions "n" = false) :
    (Selection.ofPredicate predicate joined).filter.check database.tables [sampleFrame sources] =
      .ok () := by
  have hreads := reads_only_filter (reads_only_of_text hpredicate) joined
  refine Expr.check_of_columns hreads fun column hmem => ?_
  obtain ⟨hcolumn, hshort⟩ := columns_filter hpredicate hjoined column hmem
  exact resolve_search_column hshows hsources hcolumn hshort

/-- The query that lists the cards of a predicate. -/
def plainQuery (predicate : Predicate) (joined : Bool) : Query :=
  ⟨[cardId], (Selection.ofPredicate predicate joined).filter, predicate.parameters⟩

/-- The query of a search text is accepted unless it has too many levels or comes to a long
pattern. -/
theorem accepted_of_patterns (hshows : database.ShowsCards)
    (hsources : database.sources (Selection.ofPredicate predicate joined).sources = .ok sources)
    (hpredicate : Predicate.ofText today text = .ok predicate)
    (hjoined : joined = true ∨ predicate.mentions "n" = false)
    (hheight : (Selection.ofPredicate predicate joined).filter.height ≤ greatestHeight)
    (hpatterns : meetsLongPattern database.tables predicate.parameters sources
      (Selection.ofPredicate predicate joined).filter = false) :
    (plainQuery predicate joined).Accepted database sources := by
  have hreads := reads_only_filter (reads_only_of_text hpredicate) joined
  have hexprs : ∀ {p : Expr → Prop}, p cardId → p (Selection.ofPredicate predicate joined).filter →
      ∀ expr ∈ (plainQuery predicate joined).exprs, p expr := fun hid hfilter =>
    Query.forall_exprs.2 ⟨List.forall_mem_singleton.2 hid, hfilter⟩
  refine ⟨hexprs (by decide) hheight, hexprs ?_ ?_, hexprs ?_ ?_, ?_, hpatterns⟩
  · exact fun _ hmem => absurd hmem List.not_mem_nil
  · rw [Expr.tables_of_reads_only hreads]
    exact fun _ hmem => absurd hmem List.not_mem_nil
  · have hid : cardId.readsOnly shortNames = true := by decide
    refine Expr.check_of_columns hid fun column hmem =>
      resolve_search_column hshows hsources ?_ (Or.inr ?_)
    · exact (by decide : [("c", "id")] ⊆ searchColumns) hmem
    · rw [List.mem_singleton.1 hmem]
  · exact check_filter_of_text hshows hsources hpredicate hjoined
  · show predicate.parameters.length =
      max (max 0 0) (Selection.ofPredicate predicate joined).filter.placeholders
    rw [placeholders_filter hpredicate, Nat.zero_max, Nat.zero_max]

/-- The query of a search text is accepted unless it has too many levels or a long pattern. -/
theorem accepted_of_text (hshows : database.ShowsCards)
    (hsources : database.sources (Selection.ofPredicate predicate joined).sources = .ok sources)
    (hpredicate : Predicate.ofText today text = .ok predicate)
    (hjoined : joined = true ∨ predicate.mentions "n" = false)
    (hheight : (Selection.ofPredicate predicate joined).filter.height ≤ greatestHeight)
    (hpatterns : hasLongPattern predicate.parameters
      (Selection.ofPredicate predicate joined).filter = false) :
    (plainQuery predicate joined).Accepted database sources :=
  accepted_of_patterns hshows hsources hpredicate hjoined hheight
    (not_meets_long_pattern hpatterns)

/-- The plain query of a search text lists every card that its selection finds once, if it is
accepted. -/
theorem card_ids_of_accepted (hshows : database.ShowsCards)
    (hsources : database.sources (Selection.ofPredicate predicate joined).sources = .ok sources)
    (hpredicate : Predicate.ofText today text = .ok predicate)
    (haccepted : (plainQuery predicate joined).Accepted database sources) :
    ∃ ids, database.cardIds ⟨Selection.ofPredicate predicate joined, none⟩ = .ok ids ∧
      ids.Perm (database.foundIds (Selection.ofPredicate predicate joined)) := by
  have hreads := reads_only_filter (reads_only_of_text hpredicate) joined
  have hexpand : (plainQuery predicate joined).expand = .ok (plainQuery predicate joined) := by
    unfold Query.expand plainQuery
    dsimp only
    rw [Expr.expand_of_reads_only hreads]
    rfl
  have hrun : ∀ sql, database.run sql (plainQuery predicate joined)
      (database.sources (Selection.ofPredicate predicate joined).sources) =
        .ok ((plainQuery predicate joined).listed database sources) := fun sql =>
    run_eq_ok_iff.2 ⟨_, hexpand, sources, hsources, haccepted, rfl⟩
  obtain ⟨ids, hids⟩ :
      ∃ ids, database.cardIds ⟨Selection.ofPredicate predicate joined, none⟩ = .ok ids :=
    ⟨_, Except.bind_eq_ok_iff.2 ⟨[], rfl, Except.bind_eq_ok_iff.2 ⟨_, hrun _, rfl⟩⟩⟩
  exact ⟨ids, hids, card_ids_perm hshows hreads hids⟩

/-- The plain query of a search text lists every card that its selection finds once, if its tables
are there and it has neither too many levels nor a long pattern. -/
theorem card_ids_of_sources (hshows : database.ShowsCards)
    (hsources : database.sources (Selection.ofPredicate predicate joined).sources = .ok sources)
    (hpredicate : Predicate.ofText today text = .ok predicate)
    (hjoined : joined = true ∨ predicate.mentions "n" = false)
    (hheight : (Selection.ofPredicate predicate joined).filter.height ≤ greatestHeight)
    (hpatterns : hasLongPattern predicate.parameters
      (Selection.ofPredicate predicate joined).filter = false) :
    ∃ ids, database.cardIds ⟨Selection.ofPredicate predicate joined, none⟩ = .ok ids ∧
      ids.Perm (database.foundIds (Selection.ofPredicate predicate joined)) :=
  card_ids_of_accepted hshows hsources hpredicate
    (accepted_of_text hshows hsources hpredicate hjoined hheight hpatterns)

/-- The tables of a selection are there if cards and notes are. -/
theorem sources_of_tables (hshows : database.ShowsCards) (hcards : database.cards = some cards)
    (hnotes : database.notes = some notes) (selection : Selection) :
    ∃ sources, database.sources selection.sources = .ok sources := by
  simp only [sources_eq_ok_iff hshows]
  cases hjoined : selection.joined with
  | true => exact ⟨_, cards, hcards, notes, hnotes, rfl⟩
  | false => exact ⟨_, cards, hcards, rfl⟩

/-- The plain query of a search text lists every card that its selection finds once, unless it has
too many levels or a long pattern. -/
theorem card_ids_of_text (hshows : database.ShowsCards) (hcards : database.cards = some cards)
    (hnotes : database.notes = some notes)
    (hpredicate : Predicate.ofText today text = .ok predicate)
    (hjoined : joined = true ∨ predicate.mentions "n" = false)
    (hheight : (Selection.ofPredicate predicate joined).filter.height ≤ greatestHeight)
    (hpatterns : ∀ value ∈ predicate.parameters, isLongPattern value = false) :
    ∃ ids, database.cardIds ⟨Selection.ofPredicate predicate joined, none⟩ = .ok ids ∧
      ids.Perm (database.foundIds (Selection.ofPredicate predicate joined)) := by
  obtain ⟨sources, hsources⟩ := sources_of_tables hshows hcards hnotes
    (Selection.ofPredicate predicate joined)
  exact card_ids_of_sources hshows hsources hpredicate hjoined hheight
    (not_has_long_pattern hpatterns _)

end CardBrowser.Search
