import Mathlib
import CardBrowser.Proofs.Search.Cleanup
import CardBrowser.Session.Change

/-!
# Answers that do not depend on earlier searches

`Session.answer` is what a search would find now. It depends on the store, which a search may change,
and a session is steady if that does not show in later answers. It is so on stores that never
change, `is_steady_of_is_still`, and also on databases, where a search leaves the tables as they
were: `is_steady_connection`.
-/

namespace CardBrowser

open CardBrowser.Search

/-- No call of a search changes the store. -/
structure Store.IsStill (σ : Type) [Store σ] : Prop where
  execute (command : Command) (store : σ) : (Store.execute command store).2 = store
  cardIds (query : CardQuery) (store : σ) : (Store.cardIds query store).2 = store
  rankedIds (query : RankedQuery) (store : σ) : (Store.rankedIds query store).2 = store
  noteIds (ids : List Int) (store : σ) : (Store.noteIds ids store).2 = store

namespace Session

variable {σ : Type} [Store σ]

/-- What a search would find now: the last search text is read, the cards are searched by the plan of
the sort column or, if it has none, natively, and one card of every note is left if that is wanted.
Nothing is found if the text cannot be read or the native search fails. -/
def answer (session : Session σ) : List Int :=
  match session.parse session.lastSearch with
  | .error _ => []
  | .ok predicate =>
    let plan := planFor session.registry session.planOptions predicate session.sortType
    let (found, store) := match plan.1 with
      | some plan => plan.execute session.direction session.store
      | none =>
        let (answer, store) :=
          nativeSearch session.native predicate session.sortType session.direction session.store
        (answer.toOption.getD [], store)
    (filterNotes session.uniqueNotes found store).1

/-- A search finds the answer. -/
theorem results_run_search (session : Session σ) : session.runSearch.results = session.answer := by
  unfold runSearch answer
  cases session.parse session.lastSearch with
  | error error => rfl
  | ok predicate => rfl

/-- Two sessions have the same host program. -/
structure SameHost (session other : Session σ) : Prop where
  config : other.config = session.config
  parse : other.parse = session.parse
  native : other.native = session.native
  forced : other.forced = session.forced

omit [Store σ] in
/-- What is the same as before at each of two steps is the same at the end. -/
theorem SameHost.trans {session other next : Session σ} (h : SameHost session other)
    (hnext : SameHost other next) : SameHost session next :=
  ⟨hnext.config.trans h.config, hnext.parse.trans h.parse, hnext.native.trans h.native,
    hnext.forced.trans h.forced⟩

/-- A search keeps what the host program brought. -/
theorem same_host_run_search (session : Session σ) : SameHost session session.runSearch := by
  unfold runSearch
  cases session.parse session.lastSearch with
  | error error => exact ⟨rfl, rfl, rfl, rfl⟩
  | ok predicate => exact ⟨rfl, rfl, rfl, rfl⟩

/-- The states of the store that searches lead to, whatever is searched for and however it is
sorted. -/
inductive Searched (session : Session σ) : σ → Prop
  | start : Searched session session.store
  | search (other : Session σ) : SameHost session other → Searched session other.store →
      Searched session other.runSearch.store

/-- The answers of the store do not depend on earlier searches. -/
def IsSteady (session : Session σ) : Prop :=
  ∀ other : Session σ, SameHost session other → Searched session other.store →
    other.answer = { other with store := session.store }.answer

/-! ## Stores that never change -/

/-- Commands leave a store that never changes. -/
theorem store_run_commands (h : Store.IsStill σ) (stage : Stage) (commands : List Command)
    (store : σ) : (Plan.runCommands stage commands store).2 = store := by
  induction commands with
  | nil => rfl
  | cons command commands ih =>
      have hcommand := h.execute command store
      unfold Plan.runCommands
      rcases hcalled : Store.execute command store with ⟨_ | _, after⟩ <;> rw [hcalled] at hcommand
      · exact hcommand
      · obtain rfl : after = store := hcommand
        exact ih

/-- A plan leaves a store that never changes. -/
theorem store_execute (h : Store.IsStill σ) (plan : Plan) (direction : Direction) (store : σ) :
    (plan.execute direction store).2 = store := by
  have hquery : ∀ store : σ, (Plan.runQuery plan.query direction store).2 = store := by
    intro store
    unfold Plan.runQuery
    cases plan.query with
    | plain query => exact h.cardIds query store
    | ranked query => exact h.rankedIds query store
  have hrun : (plan.run direction store).2 = store := by
    have hcommands := store_run_commands h .projection plan.prepare store
    unfold Plan.run
    rcases hcalled : Plan.runCommands .projection plan.prepare store with ⟨_ | _, after⟩ <;>
      rw [hcalled] at hcommands
    · exact hcommands
    · exact (hquery after).trans hcommands
  show plan.cleanUp (plan.run direction store).2 = store
  rw [hrun]
  unfold Plan.cleanUp
  cases plan.cleanup with
  | none => rfl
  | some command => exact h.execute command store

/-- A search leaves a store that never changes. -/
theorem store_run_search (h : Store.IsStill σ) (session : Session σ) :
    session.runSearch.store = session.store := by
  have hfilter : ∀ cards (store : σ),
      (filterNotes session.uniqueNotes cards store).2 = store := by
    intro cards store
    have hnotes := h.noteIds cards store
    unfold filterNotes
    split
    · rfl
    · rcases hcalled : Store.noteIds cards store with ⟨_ | _, after⟩ <;> rw [hcalled] at hnotes <;>
        exact hnotes
  unfold runSearch
  cases session.parse session.lastSearch with
  | error error => rfl
  | ok predicate =>
      dsimp only [find]
      rw [hfilter]
      cases (planFor session.registry session.planOptions predicate session.sortType).1 with
      | none => exact h.cardIds _ _
      | some plan => exact store_execute h plan session.direction session.store

/-- What a search finds on a store that never changes does not depend on earlier searches. -/
theorem is_steady_of_is_still (h : Store.IsStill σ) (session : Session σ) : session.IsSteady := by
  intro other _ hsearched
  have hstore : other.store = session.store := by
    generalize other.store = store at hsearched
    induction hsearched with
    | start => rfl
    | search searching _ _ ih => exact (store_run_search h searching).trans ih
  rw [← hstore]

end Session

/-! ## Databases -/

section Databases

open CardBrowser.Database

variable {connection : Connection} {database : Database} {options : PlanOptions}
  {predicate : Predicate} {direction : Direction} {name : String}

/-- A connection leaves one card of every note as its database does. -/
theorem filter_notes_connection (wanted : Bool) (cards : List Int) :
    (filterNotes wanted cards connection).1 = (filterNotes wanted cards connection.database).1 ∧
      (filterNotes wanted cards connection).2.database = connection.database := by
  unfold filterNotes
  split
  · exact ⟨rfl, rfl⟩
  · rename_i hfew
    have hcards : cards.isEmpty = false := by
      cases cards with
      | nil => simp at hfew
      | cons card cards => rfl
    simp only [Store.noteIds, Connection.noteIds, hcards, Bool.and_false, Bool.false_eq_true,
      if_false]
    cases connection.database.noteIds cards <;> exact ⟨rfl, rfl⟩

namespace Session

variable {session : Session Connection}

/-- The answer on a connection depends on its database only. -/
theorem answer_of_same_database {other : Connection}
    (h : other.database = session.store.database) :
    { session with store := other }.answer = session.answer := by
  unfold answer
  dsimp only
  cases session.parse session.lastSearch with
  | error error => rfl
  | ok predicate =>
      dsimp only [planOptions]
      cases (planFor session.registry ⟨session.config.sortTable, session.forced⟩ predicate
          session.sortType).1 with
      | none =>
          have hnative : ∀ connection : Connection,
              (nativeSearch session.native predicate session.sortType session.direction
                connection).1 = (nativeSearch session.native predicate session.sortType
                session.direction connection.database).1 ∧
              (nativeSearch session.native predicate session.sortType session.direction
                connection).2.database = connection.database := fun _ => ⟨rfl, rfl⟩
          dsimp only
          rw [(filter_notes_connection _ _).1, (filter_notes_connection _ _).1, (hnative _).1,
            (hnative _).1, (hnative _).2, (hnative _).2, h]
      | some plan =>
          obtain ⟨hother, hotherStore⟩ := Plan.execute_plan_connection plan session.direction other
          obtain ⟨hsession, hsessionStore⟩ :=
            Plan.execute_plan_connection plan session.direction session.store
          rw [h] at hother hotherStore
          dsimp only
          rw [(filter_notes_connection _ _).1, (filter_notes_connection _ _).1, hother, hsession,
            hotherStore, hsessionStore]

/-- A search leaves the database of a connection as it was if there was no sort table before. -/
theorem database_run_search {name : String}
    (hname : session.store.database.NamesSortTable session.config.sortTable name)
    (hnone : named? session.store.database.temporary name = none) :
    session.runSearch.store.database = session.store.database := by
  unfold runSearch
  cases session.parse session.lastSearch with
  | error error => rfl
  | ok predicate =>
      dsimp only [find]
      rw [(filter_notes_connection _ _).2]
      unfold planFor
      dsimp only
      cases (session.registry.sortKey session.sortType).1 with
      | none => rfl
      | some key =>
          dsimp only [Option.map_some]
          rw [(Plan.execute_plan_connection _ _ _).2]
          exact execute_of_key_snd hname.reads_name hnone key

/-- What a search on a connection finds does not depend on earlier searches, provided that there was
no table of the name of the sort table before them. -/
theorem is_steady_connection {name : String}
    (hname : session.store.database.NamesSortTable session.config.sortTable name)
    (hnone : named? session.store.database.temporary name = none) : session.IsSteady := by
  have hstore : ∀ store, Searched session store → store.database = session.store.database := by
    intro store hsearched
    induction hsearched with
    | start => rfl
    | search searching hhost _ ih =>
        have hname : searching.store.database.NamesSortTable searching.config.sortTable name := by
          rw [hhost.config, ih]
          exact hname
        rw [← ih] at hnone ⊢
        exact database_run_search hname hnone
  intro other _ hsearched
  exact (answer_of_same_database (hstore other.store hsearched).symm).symm

end Session

end Databases

end CardBrowser
