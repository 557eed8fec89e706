import Mathlib
import CardBrowser.Proofs.Column.SortKey
import CardBrowser.Proofs.Session.Change
import CardBrowser.Proofs.Session.Opening
import CardBrowser.Proofs.Session.Steady

/-!
# Results and the state they belong to

From its first search on, a session shows what a search would find now: `results_eq_answer`. Most
operations search again. Those that do not must leave everything alone that the answer depends on,
which is what `SameSearch` lists: the columns on offer are not in the list, the sort key is. Read
`apply_cases` first, which says which operations do so, and then `Coherent.apply`.
-/

namespace CardBrowser

open CardBrowser.Search

namespace Operation

/-- Whether an operation that is not refused searches again, where `sortType` is the sort column. -/
def Searches (sortType : String) : Operation → Prop
  | search _ | setSortColumn _ | setSortDirection _ | toggleUniqueNotes => True
  | unregisterColumn type | removeColumn type => type = sortType
  | toggleColumn _ | registerColumn _ => False

/-- An operation registers fixed columns only, and none in place of the sort column. -/
def Spares (sortType : String) (operation : Operation) : Prop :=
  ∀ column, operation = registerColumn column → column.IsFixed ∧ column.type ≠ sortType

variable {operation : Operation} {sortType type : String}

/-- An operation that asks anew searches again, whatever the sort column is. -/
theorem AsksAnew.searches (h : operation.AsksAnew) : operation.Searches sortType := by
  cases operation <;> trivial

/-- An operation that takes a column away searches again if it was the sort column. -/
theorem searches_of_call (h : operation.call? = some (.unregister type)) :
    operation.Searches sortType ↔ type = sortType := by
  cases operation <;> cases h <;> exact Iff.rfl

end Operation

namespace Session

variable {σ : Type} [Store σ] {origin session other next : Session σ} {operation : Operation}

/-- No operation of a history changes what the sort column of its time sorts by. -/
def Spared (session : Session σ) : List Operation → Prop
  | [] => True
  | operation :: operations =>
    operation.Spares session.sortType ∧ Spared (session.step operation) operations

/-! ## What an answer depends on -/

/-- Two sessions search alike. -/
structure SameSearch (session other : Session σ) : Prop where
  host : SameHost session other
  lastSearch : other.lastSearch = session.lastSearch
  sortType : other.sortType = session.sortType
  direction : other.direction = session.direction
  uniqueNotes : other.uniqueNotes = session.uniqueNotes
  key : (other.registry.sortKey session.sortType).1 = (session.registry.sortKey session.sortType).1

/-- Sessions on one store that search alike find the same. -/
theorem SameSearch.answer_eq (h : SameSearch session other) (hstore : other.store = session.store) :
    other.answer = session.answer := by
  have hplan : ∀ options predicate,
      (planFor other.registry options predicate session.sortType).1 =
        (planFor session.registry options predicate session.sortType).1 := by
    intro options predicate
    exact congrArg (Option.map (Plan.ofKey options predicate)) h.key
  have hoptions : other.planOptions = session.planOptions := by
    unfold planOptions
    rw [h.host.config, h.host.forced]
  unfold answer
  simp only [h.host.parse, h.host.native, h.lastSearch, h.sortType, h.direction, h.uniqueNotes,
    hoptions, hplan, hstore]

/-- After a search, a session with fixed columns searches as it did before. -/
theorem same_search_run_search (h : session.registry.IsFixed) :
    SameSearch session session.runSearch := by
  unfold runSearch
  cases session.parse session.lastSearch with
  | error error => exact ⟨⟨rfl, rfl, rfl, rfl⟩, rfl, rfl, rfl, rfl, rfl⟩
  | ok predicate =>
      exact ⟨⟨rfl, rfl, rfl, rfl⟩, rfl, rfl, rfl, rfl, Registry.sort_key_after_sort_key h⟩

/-- A search keeps columns fixed. -/
theorem is_fixed_run_search (h : session.registry.IsFixed) :
    session.runSearch.registry.IsFixed := by
  unfold runSearch
  cases session.parse session.lastSearch with
  | error error => exact h
  | ok predicate => exact h.sort_key

/-! ## What an operation does -/

/-- A session has been changed without a call of the store. -/
structure Altered (session other : Session σ) : Prop where
  host : SameHost session other
  store : other.store = session.store
  fixed : other.registry.IsFixed

/-- A change between two events of the display, after which the session searches again. -/
theorem searched_after_change (session : Session σ) (change : Session σ → Session σ)
    (h : Altered session (change { session with display := session.display ++ [.beginReset] })) :
    ∃ changed display, Altered session changed ∧
      bracketed (fun session => runSearch (change session)) session =
        { changed.runSearch with display } :=
  ⟨_, _, h, rfl⟩

/-- A session drops its sort column by searching again, and any other column without that. -/
theorem drop_column_eq (type : String) (session : Session σ) :
    dropColumn type session =
      if session.sortType = type then
        bracketed (fun session => runSearch (forgetColumn type session)) session
      else bracketed (forgetColumn type) session := by
  unfold dropColumn bracketed
  dsimp only
  split <;> rfl

omit [Store σ] in
/-- A session keeps its sort column if it forgets another one. -/
theorem sort_type_of_forget_other {type : String} (h : session.sortType ≠ type) :
    (forgetColumn type session).sortType = session.sortType := by
  dsimp only [forgetColumn]
  rw [if_neg h]

/-- A session with other columns drops one of them: it searches again if it sorted by that column,
and goes on as before if not, for then the sort column is still the same. -/
theorem drop_column_cases {type : String} (offer : Offer) (hfixed : offer.registry.IsFixed)
    (hlookup : session.sortType ≠ type →
      offer.registry.lookup session.sortType = session.registry.lookup session.sortType) :
    (type = session.sortType ∧ ∃ changed display, Altered session changed ∧
        dropColumn type (session.withOffer offer) = { changed.runSearch with display }) ∨
      (type ≠ session.sortType ∧ Altered session (dropColumn type (session.withOffer offer)) ∧
        SameSearch session (dropColumn type (session.withOffer offer)) ∧
        (dropColumn type (session.withOffer offer)).results = session.results) := by
  rw [drop_column_eq]
  by_cases hsort : (session.withOffer offer).sortType = type
  · rw [if_pos hsort]
    obtain ⟨changed, display, haltered, hdrop⟩ := searched_after_change (session.withOffer offer)
      (forgetColumn type) ⟨⟨rfl, rfl, rfl, rfl⟩, rfl, hfixed⟩
    exact Or.inl ⟨hsort.symm, changed, display,
      ⟨⟨haltered.host.config, haltered.host.parse, haltered.host.native, haltered.host.forced⟩,
        haltered.store, haltered.fixed⟩, hdrop⟩
  · rw [if_neg hsort]
    have hkey : (offer.registry.sortKey session.sortType).1 =
        (session.registry.sortKey session.sortType).1 := by
      rw [Registry.sort_key_eq_bind, Registry.sort_key_eq_bind, hlookup hsort]
    have htype : (forgetColumn type (session.withOffer offer)).sortType = session.sortType :=
      sort_type_of_forget_other hsort
    exact Or.inr ⟨Ne.symm hsort, ⟨⟨rfl, rfl, rfl, rfl⟩, rfl, hfixed⟩,
      ⟨⟨rfl, rfl, rfl, rfl⟩, rfl, htype, rfl, rfl, hkey⟩, rfl⟩

/-- An operation that is not refused changes the session and then searches, or it leaves alone what
a search depends on and the results. -/
theorem apply_cases (hfixed : session.registry.IsFixed)
    (hspares : operation.Spares session.sortType) (h : session.apply operation = .ok next) :
    (operation.Searches session.sortType ∧ ∃ changed display, Altered session changed ∧
        next = { changed.runSearch with display }) ∨
      (¬ operation.Searches session.sortType ∧ Altered session next ∧ SameSearch session next ∧
        next.results = session.results) := by
  cases outcome_of_apply h with
  | asked lastSearch sortType direction uniqueNotes hasks =>
      exact Or.inl ⟨hasks.searches, searched_after_change session
        ({ · with lastSearch, sortType, direction, uniqueNotes })
        ⟨⟨rfl, rfl, rfl, rfl⟩, rfl, hfixed⟩⟩
  | toggled =>
      exact Or.inr ⟨id, ⟨⟨rfl, rfl, rfl, rfl⟩, rfl, hfixed⟩,
        ⟨⟨rfl, rfl, rfl, rfl⟩, rfl, rfl, rfl, rfl, rfl⟩, rfl⟩
  | @registered column registry hregister =>
      obtain ⟨hcolumn, hother⟩ := hspares column rfl
      have hkey : (registry.sortKey session.sortType).1 =
          (session.registry.sortKey session.sortType).1 := by
        rw [Registry.sort_key_eq_bind, Registry.sort_key_eq_bind,
          Registry.lookup_register hregister (Ne.symm hother)]
      exact Or.inr ⟨id, ⟨⟨rfl, rfl, rfl, rfl⟩, rfl, hfixed.register hcolumn hregister⟩,
        ⟨⟨rfl, rfl, rfl, rfl⟩, rfl, rfl, rfl, rfl, hkey⟩, rfl⟩
  | @dropped _ type offer hcall hregistry =>
      rw [Operation.searches_of_call hcall]
      refine drop_column_cases offer (hregistry ▸ hfixed.step_unregister type) fun hne => ?_
      rw [hregistry, Registry.lookup_step_unregister, if_neg (Ne.symm hne)]

/-! ## The invariant -/

/-- A session that operations on another one have led to. -/
structure Follows (origin session : Session σ) : Prop where
  host : SameHost origin session
  searched : Searched origin session.store
  fixed : session.registry.IsFixed

/-- A session that operations on another one have led to, one of which has searched: its results are
what it would find now. -/
structure Coherent (origin session : Session σ) : Prop extends Follows origin session where
  results : session.results = session.answer

/-- A change without a call of the store leads on. -/
theorem Follows.altered (h : Follows origin session) (haltered : Altered session other) :
    Follows origin other := by
  refine ⟨h.host.trans haltered.host, ?_, haltered.fixed⟩
  rw [haltered.store]
  exact h.searched

/-- A search leads to a session that shows what it would find now. The answers before and after it
are compared at the store of the beginning, on which both sessions search alike. -/
theorem Follows.run_search (hsteady : origin.IsSteady) (h : Follows origin session) :
    Coherent origin session.runSearch := by
  have hsame : SameSearch session session.runSearch := same_search_run_search h.fixed
  have hfollows : Follows origin session.runSearch :=
    ⟨h.host.trans hsame.host, .search session h.host h.searched, is_fixed_run_search h.fixed⟩
  refine ⟨hfollows, ?_⟩
  have halike : SameSearch { session with store := origin.store }
      { session.runSearch with store := origin.store } :=
    ⟨⟨hsame.host.config, hsame.host.parse, hsame.host.native, hsame.host.forced⟩,
      hsame.lastSearch, hsame.sortType, hsame.direction, hsame.uniqueNotes, hsame.key⟩
  calc session.runSearch.results
      = session.answer := results_run_search session
    _ = { session with store := origin.store }.answer := hsteady session h.host h.searched
    _ = { session.runSearch with store := origin.store }.answer := (halike.answer_eq rfl).symm
    _ = session.runSearch.answer :=
        (hsteady session.runSearch hfollows.host hfollows.searched).symm

/-- What the display is told does not matter to the results. -/
theorem Coherent.with_display (h : Coherent origin session) (display : List DisplayEvent) :
    Coherent origin { session with display } :=
  ⟨⟨⟨h.host.config, h.host.parse, h.host.native, h.host.forced⟩, h.searched, h.fixed⟩, h.results⟩

/-- An operation that is not refused leads on, and if it searches, the session shows what it would
find now. -/
theorem Follows.apply (hsteady : origin.IsSteady) (h : Follows origin session)
    (hspares : operation.Spares session.sortType) (happly : session.apply operation = .ok next) :
    Follows origin next ∧ (operation.Searches session.sortType → Coherent origin next) := by
  rcases apply_cases h.fixed hspares happly with
    ⟨-, changed, display, haltered, rfl⟩ | ⟨hnot, haltered, -, -⟩
  · have hcoherent : Coherent origin changed.runSearch :=
      (h.altered haltered).run_search hsteady
    exact ⟨(hcoherent.with_display display).toFollows, fun _ => hcoherent.with_display display⟩
  · exact ⟨h.altered haltered, fun hsearches => absurd hsearches hnot⟩

/-- An operation that is not refused keeps the results what a search would find. -/
theorem Coherent.apply (hsteady : origin.IsSteady) (h : Coherent origin session)
    (hspares : operation.Spares session.sortType) (happly : session.apply operation = .ok next) :
    Coherent origin next := by
  rcases apply_cases h.fixed hspares happly with
    ⟨-, changed, display, haltered, rfl⟩ | ⟨-, haltered, hsame, hresults⟩
  · exact ((h.toFollows.altered haltered).run_search hsteady).with_display display
  · refine ⟨h.toFollows.altered haltered, ?_⟩
    calc next.results
        = session.results := hresults
      _ = session.answer := h.results
      _ = next.answer := (hsame.answer_eq haltered.store).symm

/-- What operations keep that are not refused and change nothing that is sorted by, a history of
such operations keeps. -/
theorem spared_induction {motive : Session σ → Prop} {operations : List Operation}
    (happly : ∀ (session next : Session σ) (operation : Operation), motive session →
      operation.Spares session.sortType → session.apply operation = .ok next → motive next)
    (h : motive session) (hspared : session.Spared operations) :
    motive (session.run operations) := by
  induction operations generalizing session with
  | nil => exact h
  | cons operation operations ih =>
      exact ih (step_of_apply h fun next => happly session next operation h hspared.1) hspared.2

/-- A history leads on. -/
theorem Follows.run {operations : List Operation} (hsteady : origin.IsSteady)
    (h : Follows origin session) (hspared : session.Spared operations) :
    Follows origin (session.run operations) :=
  spared_induction (fun _ _ _ hfollows hspares happly =>
    (hfollows.apply hsteady hspares happly).1) h hspared

/-- A history keeps the results what a search would find. -/
theorem Coherent.run {operations : List Operation} (hsteady : origin.IsSteady)
    (h : Coherent origin session) (hspared : session.Spared operations) :
    Coherent origin (session.run operations) :=
  spared_induction (fun _ _ _ hcoherent hspares happly =>
    hcoherent.apply hsteady hspares happly) h hspared

/-- A history of two parts changes nothing that the sort column of its time sorts by if its parts do
not. -/
theorem spared_append {earlier later : List Operation} :
    session.Spared (earlier ++ later) ↔
      session.Spared earlier ∧ (session.run earlier).Spared later := by
  induction earlier generalizing session with
  | nil => exact (and_iff_right trivial).symm
  | cons operation earlier ih =>
      show operation.Spares session.sortType ∧ (session.step operation).Spared (earlier ++ later) ↔
        (operation.Spares session.sortType ∧ (session.step operation).Spared earlier) ∧ _
      rw [ih, and_assoc]
      rfl

/-! ## From the first search on -/

/-- From the first search on, a session shows what a search would find. -/
theorem results_eq_answer (session : Session σ) (earlier later : List Operation)
    (operation : Operation) (hsteady : session.IsSteady) (hfixed : session.registry.IsFixed)
    (hspared : session.Spared (earlier ++ operation :: later))
    (happly : ∃ next, (session.run earlier).apply operation = .ok next)
    (hsearches : operation.Searches (session.run earlier).sortType) :
    (session.run (earlier ++ operation :: later)).results =
      (session.run (earlier ++ operation :: later)).answer := by
  obtain ⟨hearlier, hspares, hlater⟩ := spared_append.1 hspared
  obtain ⟨next, happly⟩ := happly
  have hfollows : Follows session (session.run earlier) :=
    Follows.run hsteady ⟨⟨rfl, rfl, rfl, rfl⟩, .start, hfixed⟩ hearlier
  have hnext : Coherent session next := (hfollows.apply hsteady hspares happly).2 hsearches
  rw [step_of_ok happly] at hlater
  rw [run_around, step_of_ok happly]
  exact (hnext.run hsteady hlater).results

/-- A browser that sorts by the sort field of notes and keeps its values in a table. -/
def sortFieldSetup : Setup where
  registry := sortFieldColumn
  forced := some .materialized

/-- A column that sorts by nothing. -/
def unorderedColumn : CustomColumn where
  type := "u"
  label := "u"
  value := fun _ _ => ""
  sort := some (.constant (.ok ""))

/-- After a search for a text, one column is registered, none can be unregistered, and the sort
column is hidden. -/
theorem results_eq_answer_hidden : ∃ session,
    sortFieldSetup.open? { sortType := some "k" } nulConnection = .ok session ∧
    ∀ later ∈ [[], [Operation.registerColumn unorderedColumn],
        [.registerColumn unorderedColumn, .unregisterColumn "none", .removeColumn "k"]],
      (session.run (.search "a" :: later)).results = (session.run (.search "a" :: later)).answer := by
  obtain ⟨session, hopen⟩ : ∃ session,
      sortFieldSetup.open? { sortType := some "k" } nulConnection = .ok session := ⟨_, rfl⟩
  refine ⟨session, hopen, fun later hlater => ?_⟩
  obtain ⟨-, -, rfl⟩ := open_eq_ok_iff.1 hopen
  refine results_eq_answer _ [] later (.search "a") ?_ ?_ ?_ ⟨_, rfl⟩ trivial
  · exact is_steady_connection Database.names_sort_table_tmp rfl
  · intro column hcolumn source hsource m n
    obtain rfl := List.mem_singleton.1 hcolumn
    cases hsource
    rfl
  · refine ⟨nofun, ?_⟩
    have hspares : ∀ session : Session Database.Connection, session.sortType = "k" →
        (Operation.registerColumn unorderedColumn).Spares
          (session.step (.search "a")).sortType := by
      intro session hsort column hcolumn
      cases hcolumn
      have hsearched : (session.step (.search "a")).sortType = session.sortType :=
        (searched_same_columns ({ · with lastSearch := "a" }) session).sortType
      refine ⟨fun source hsource m n => ?_, ?_⟩
      · cases hsource
        rfl
      · rw [hsearched, hsort]
        decide
    fin_cases hlater
    · trivial
    · exact ⟨hspares _ (by decide), trivial⟩
    · exact ⟨hspares _ (by decide), nofun, nofun, trivial⟩

end Session

end CardBrowser
