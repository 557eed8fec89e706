import Mathlib
import CardBrowser.Proofs.Database.Found
import CardBrowser.Proofs.Database.Order
import CardBrowser.Proofs.Search.Condition
import CardBrowser.Proofs.Search.Run

/-!
# The order of search results

A search by a sort expression lists the cards that it finds in strictly ascending order of their
keys, `cardKey`, and there is only one such list: `ascending_run_listing`. The keys cut texts at a
NUL, as comparisons without regard to case do.
-/

namespace CardBrowser.Search

open CardBrowser.Database CardBrowser.Sql

/-! ## Listings -/

/-- A list holds exactly the ids that are found, in strictly ascending order of their keys. -/
structure IsListing (finds : Int → Bool) (key : Int → RankKey) (ids : List Int) : Prop where
  complete : ∀ id, id ∈ ids ↔ finds id = true
  ascending : ids.Pairwise fun id other => key id < key other

/-- There is at most one such list. -/
theorem IsListing.unique {finds : Int → Bool} {key : Int → RankKey} {ids others : List Int}
    (h : IsListing finds key ids) (hothers : IsListing finds key others) : others = ids := by
  have hantisymm : Std.Antisymm fun id other => key id < key other :=
    ⟨fun _ _ hlt hgt => absurd hgt (lt_asymm hlt)⟩
  have hirrefl : Std.Irrefl fun id other => key id < key other := ⟨fun _ => lt_irrefl _⟩
  exact hothers.ascending.eq_of_mem_iff h.ascending fun id =>
    (hothers.complete id).trans (h.complete id).symm

/-- No id is listed twice. -/
theorem IsListing.nodup {finds : Int → Bool} {key : Int → RankKey} {ids : List Int}
    (h : IsListing finds key ids) : ids.Nodup := by
  refine h.ascending.imp ?_
  rintro id other hlt rfl
  exact lt_irrefl _ hlt

/-- What the card of an id is put in order by. -/
def cardKey (cut : List Char → List Char) (database : Database) (selection : Selection)
    (value : Expr) (id : Int) : RankKey :=
  rankKey cut (database.sortValue selection value id) id

variable {database : Database} {predicate : Predicate} {expression : String}

/-- The cards of a ranked query are listed by their keys. -/
theorem listing_of_ranked_pairs {selection : Selection} {sources : From} (h : database.ShowsCards)
    (hsources : database.sources selection.sources = .ok sources) (value : Expr) :
    IsListing (database.finds selection) (cardKey beforeNul database selection value)
      (directed (rankedPairs
        (sortPairs database sources value selection.filter selection.parameters)) .ascending) := by
  -- The pairs to sort are made from the ids, so a pair that comes out holds the value of its id.
  let choice := fun id => (database.sortValue selection value id, id)
  obtain ⟨sorted, hperm, hsorted, hpairs⟩ :=
    ranked_pairs_sorted ((database.foundIds selection).map choice)
  have hchoice : ∀ chosen ∈ sorted, database.sortValue selection value chosen.2 = chosen.1 := by
    intro chosen hmem
    obtain ⟨id, -, rfl⟩ := List.mem_map.1 (hperm.mem_iff.1 hmem)
    rfl
  have hids : (sorted.map Prod.snd).Perm (database.foundIds selection) := by
    have hperm := hperm.map Prod.snd
    rw [List.map_map] at hperm
    simpa [choice, Function.comp_def] using hperm
  have hlisted : directed (rankedPairs
      (sortPairs database sources value selection.filter selection.parameters)) .ascending =
      sorted.map Prod.snd := by
    rw [List.map_map] at hpairs
    rw [sort_pairs_eq h hsources]
    refine (congrArg (List.map Prod.fst) hpairs).trans ?_
    rw [List.map_map]
    rfl
  have hnodup : (sorted.map Prod.snd).Nodup := hids.nodup_iff.2 found_ids_nodup
  rw [hlisted]
  constructor
  · exact fun id => hids.mem_iff.trans mem_found_ids
  · rw [List.pairwise_map]
    refine (List.Pairwise.and_mem.1 (hsorted.and (List.pairwise_map.1 hnodup))).imp ?_
    rintro first second ⟨hfirst, hsecond, hle, hne⟩
    unfold cardKey
    rw [hchoice first hfirst, hchoice second hsecond]
    -- The id is a part of the key, so cards with the same key are the same card.
    refine lt_of_le_of_ne hle fun heq => hne ?_
    exact congrArg (fun key : RankKey => (ofLex (ofLex key).2).2) heq

/-! ## Plans that sort by an expression -/

/-- The database in which a plan computes sort values, where an earlier sort table is gone. -/
def Plan.cleared (plan : Plan) (database : Database) : Database :=
  match plan.prepare with
  | [] => database
  | command :: _ => (Store.execute command database).2

/-- The statement that drops an earlier sort table decides what sort values are computed in. -/
theorem Plan.cleared_materialized {written : String} {cleared : Database}
    (h : database.dropTable (Command.dropTable written).text = .ok cleared) :
    (materialized written predicate expression).cleared database = cleared := by
  have hexecute : database.execute (.dropTable written) = .ok cleared := h
  show (Store.execute (Command.dropTable written) database).2 = cleared
  simp only [Store.execute, hexecute]

/-- A list holds the cards that a plan is to find in ascending order of their keys. -/
def Plan.Lists (plan : Plan) (database : Database) (predicate : Predicate) (expression : String)
    (cut : List Char → List Char) (value : Expr) (ids : List Int) : Prop :=
  IsListing ((plan.cleared database).finds (selection predicate expression))
    (cardKey cut (plan.cleared database) (selection predicate expression) value) ids

/-- The selection of a search can be read as it is. -/
theorem selection_filter_eq {condition : Expr}
    (hpredicate : predicate.condition.readsOnly shortNames = true)
    (h : (Plan.selection predicate expression).filter.expand = .ok condition) :
    condition = (Plan.selection predicate expression).filter :=
  Expr.eq_of_expand (reads_only_filter hpredicate _) h

/-- A search that sorts in the query lists the cards by their keys. -/
theorem run_inline_listing {ids : List Int}
    (hpredicate : predicate.condition.readsOnly shortNames = true)
    (hcards : ((Plan.inline predicate expression).cleared database).ShowsCards)
    (hrun : ((Plan.inline predicate expression).run .ascending database).1 = .ok ids) :
    ∃ value, Expr.ofText? expression = some value ∧
      (Plan.inline predicate expression).Lists database predicate expression beforeNul value
        ids := by
  obtain ⟨value, condition, sources, hprepared, rfl⟩ := Plan.run_inline_eq_ok_iff.1 hrun
  obtain rfl := selection_filter_eq hpredicate hprepared.filter
  exact ⟨value, hprepared.read, listing_of_ranked_pairs hcards hprepared.tables value⟩

/-- A search that sorts in the query lists the cards that it finds in the order of their keys, if it
succeeds at all. -/
theorem run_inline_eq_ok {connection : Connection} {ids found : List Int} {value : Expr}
    (hpredicate : predicate.condition.readsOnly shortNames = true)
    (hcards : connection.database.ShowsCards) (hvalue : Expr.ofText? expression = some value)
    (hsucceeds :
      ((Plan.inline predicate expression).run .ascending connection.database).1.toOption.isSome)
    (hfound : connection.database.foundIds (Plan.selection predicate expression) = found)
    (hids : ids.Perm found)
    (hascending : ids.Pairwise fun id other =>
      cardKey beforeNul connection.database (Plan.selection predicate expression) value id <
        cardKey beforeNul connection.database (Plan.selection predicate expression) value other) :
    ((Plan.inline predicate expression).run .ascending connection).1 = .ok ids := by
  have hcomplete : ∀ id, id ∈ ids ↔
      connection.database.finds (Plan.selection predicate expression) id = true := by
    intro id
    rw [hids.mem_iff, ← hfound]
    exact mem_found_ids
  obtain ⟨listed, hrun⟩ := Except.eq_ok_of_is_some hsucceeds
  obtain ⟨read, hread, hlisted⟩ := run_inline_listing hpredicate hcards hrun
  obtain rfl := Option.some.inj (hread.symm.trans hvalue)
  have hlisting : (Plan.inline predicate expression).Lists connection.database predicate
      expression beforeNul read ids := ⟨hcomplete, hascending⟩
  rw [Plan.run_connection_eq_ok_iff, hrun, hlisted.unique hlisting]

/-- A search that sorts a table lists the cards by their keys. -/
theorem run_materialized_listing {written : String} {ids : List Int}
    (hpredicate : predicate.condition.readsOnly shortNames = true)
    (hcards : ((Plan.materialized written predicate expression).cleared database).ShowsCards)
    (hrun : ((Plan.materialized written predicate expression).run .ascending database).1 =
      .ok ids) :
    ∃ value, Expr.ofText? expression = some value ∧
      (Plan.materialized written predicate expression).Lists database predicate expression
        beforeNul value ids := by
  obtain ⟨cleared, hdrop, _, -, -, value, condition, sources, hprepared, rfl⟩ :=
    Plan.run_materialized_eq_ok_iff.1 hrun
  -- Sort values are computed after the drop, so `hcards` is about that database.
  unfold Plan.Lists
  rw [Plan.cleared_materialized hdrop] at hcards ⊢
  obtain rfl := selection_filter_eq hpredicate hprepared.filter
  exact ⟨value, hprepared.read, listing_of_ranked_pairs hcards hprepared.tables value⟩

/-- A plan that is not direct sorts by the expression of its key. -/
theorem Plan.of_key_cases (options : PlanOptions) (predicate : Predicate) (key : SortKey) :
    ofKey options predicate key = direct predicate ∨ ∃ expression,
      key.expression = some expression ∧
        (ofKey options predicate key = inline predicate expression ∨
          ofKey options predicate key = materialized options.sortTable predicate expression) := by
  unfold ofKey
  cases hexpression : key.expression with
  | none => exact Or.inl rfl
  | some expression =>
      cases chooseStrategy options key with
      | direct => exact Or.inl rfl
      | inline => exact Or.inr ⟨expression, rfl, Or.inl rfl⟩
      | materialized => exact Or.inr ⟨expression, rfl, Or.inr rfl⟩

/-- A plan that is not direct sorts by the expression of the column that is sorted by. -/
theorem Plan.sorts_of_plan_for {registry : Registry} {options : PlanOptions} {sortType : String}
    {plan : Plan} (hplan : (planFor registry options predicate sortType).1 = some plan)
    (hstrategy : plan.strategy ≠ .direct) :
    ∃ key expression, (registry.sortKey sortType).1 = some key ∧
      key.expression = some expression ∧ (plan = inline predicate expression ∨
        plan = materialized options.sortTable predicate expression) := by
  obtain ⟨key, hkey, rfl⟩ := Option.map_eq_some_iff.1 hplan
  rcases Plan.of_key_cases options predicate key with hdirect | ⟨expression, hexpression, hsorts⟩
  · exact absurd (congrArg Plan.strategy hdirect) hstrategy
  · exact ⟨key, expression, hkey, hexpression, hsorts⟩

/-- A connection to two notes whose sort fields differ after a NUL only. -/
def nulConnection : Connection where
  location := .memory
  config := {}
  database :=
    { notes := some ((Table.empty.insert ⟨10, 1, 0, "", "a\x00x", "a\x00x"⟩).insert
        ⟨20, 1, 0, "", "a\x00b", "a\x00b"⟩)
      cards := some ((Table.empty.insert { id := 1, noteId := 10 }).insert
        { id := 2, noteId := 20 }) }

/-- A registry with one column, which sorts by the sort field of notes. -/
def sortFieldColumn : Registry where
  columns :=
    [{ type := "k", label := "k", value := fun _ _ => "", sort := some (.constant (.ok "n.sfld")) }]

end CardBrowser.Search
