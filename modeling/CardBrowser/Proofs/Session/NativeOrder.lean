import Mathlib
import CardBrowser.Proofs.Column.SortKey
import CardBrowser.Proofs.Search.Run
import CardBrowser.Proofs.Session.Change
import CardBrowser.Proofs.Session.Opening
import CardBrowser.Proofs.Session.Steady

/-!
# The order of native searches

A session keeps two lists of built-in columns: the one on offer, which a host program may replace,
and the one whose order clauses native searches follow. Replacing the first leaves the second as it
was, so `results_native` speaks of the second list only, and `native_query_eq_iff` says when the
list on offer would have given the same order.
-/

namespace CardBrowser

open CardBrowser.Search

namespace Session

variable {σ : Type} [Store σ] {session next : Session σ} {type : String} {predicate : Predicate}

/-! ## What a session keeps -/

/-- Dropping a column keeps what the host program brought. -/
theorem same_host_drop_column (type : String) (session : Session σ) :
    SameHost session (dropColumn type session) := by
  unfold dropColumn bracketed
  dsimp only
  split
  · have h := same_host_run_search (forgetColumn type
      { session with display := session.display ++ [.beginReset] })
    exact ⟨h.config, h.parse, h.native, h.forced⟩
  · exact ⟨rfl, rfl, rfl, rfl⟩

/-- A search after a change that concerns the user only keeps what the host program brought. -/
theorem same_host_searched (change : Session σ → Session σ)
    (hchange : SameHost { session with display := session.display ++ [.beginReset] }
      (change { session with display := session.display ++ [.beginReset] })) :
    SameHost session (bracketed (fun session => runSearch (change session)) session) := by
  have h := same_host_run_search
    (change { session with display := session.display ++ [.beginReset] })
  have htold := hchange.trans h
  exact ⟨htold.config, htold.parse, htold.native, htold.forced⟩

/-- An operation that is not refused keeps what the host program brought. -/
theorem same_host_apply {operation : Operation} (h : session.apply operation = .ok next) :
    SameHost session next := by
  cases operation with
  | search text =>
      cases h
      exact same_host_searched _ ⟨rfl, rfl, rfl, rfl⟩
  | toggleColumn type =>
      obtain ⟨⟨shown, toggled⟩, htoggle, rfl⟩ := Except.map_eq_ok_iff.1 h
      obtain ⟨-, -, rfl⟩ := toggle_column_eq_ok_iff.1 htoggle
      exact ⟨rfl, rfl, rfl, rfl⟩
  | setSortColumn type =>
      obtain ⟨-, rfl⟩ := set_sort_column_eq_ok_iff.1 h
      exact same_host_searched _ ⟨rfl, rfl, rfl, rfl⟩
  | setSortDirection direction =>
      cases h
      exact same_host_searched _ ⟨rfl, rfl, rfl, rfl⟩
  | toggleUniqueNotes =>
      cases h
      exact same_host_searched _ ⟨rfl, rfl, rfl, rfl⟩
  | registerColumn column =>
      obtain ⟨registry, -, rfl⟩ := register_column_eq_ok_iff.1 h
      exact ⟨rfl, rfl, rfl, rfl⟩
  | unregisterColumn type =>
      obtain ⟨⟨column, dropped⟩, hunregister, rfl⟩ := Except.map_eq_ok_iff.1 h
      obtain ⟨-, registry, -, rfl⟩ := unregister_column_eq_ok_iff.1 hunregister
      have h := same_host_drop_column type
        (session.withOffer ⟨registry, session.builtins, session.removed⟩)
      exact ⟨h.config, h.parse, h.native, h.forced⟩
  | removeColumn type =>
      obtain ⟨-, offer, -, rfl⟩ := remove_column_eq_ok_iff.1 h
      have h := same_host_drop_column type (session.withOffer offer)
      exact ⟨h.config, h.parse, h.native, h.forced⟩

/-- A history keeps what the host program brought. -/
theorem same_host_run (session : Session σ) (operations : List Operation) :
    SameHost session (session.run operations) :=
  run_induction (fun _ _ _ hearlier happly => hearlier.trans (same_host_apply happly))
    ⟨rfl, rfl, rfl, rfl⟩ operations

/-! ## Native searches -/

/-- A search by a column that is not registered is native. -/
theorem answer_of_unregistered (hsort : session.sortType ∉ session.registry.types)
    (hparse : session.parse session.lastSearch = .ok predicate) :
    session.answer =
      let (answer, store) :=
        Store.cardIds (nativeQuery session.native predicate session.sortType) session.store
      (filterNotes session.uniqueNotes
        ((answer.map (reversed · session.direction)).toOption.getD []) store).1 := by
  have hkey : (session.registry.sortKey session.sortType).1 = none := by
    rw [Registry.sort_key_eq_bind, Registry.lookup_eq_none_iff.2 hsort]
    rfl
  unfold answer planFor
  rw [hparse]
  simp only [hkey, Option.map_none, nativeSearch]
  cases (Store.cardIds (nativeQuery session.native predicate session.sortType) session.store).1 <;>
    rfl

/-- Sorting by a built-in column succeeds. -/
theorem step_set_sort_column (hknown : type ∈ session.builtins.types) :
    session.step (.setSortColumn type) =
      session.bracketed fun session => runSearch { session with sortType := type } := by
  have happly : session.apply (.setSortColumn type) = .ok _ :=
    set_sort_column_eq_ok_iff.2 ⟨knows_iff.2 (Or.inl hknown), rfl⟩
  show (session.apply (.setSortColumn type)).toOption.getD session = _
  rw [happly]
  rfl

/-- Sorting by a built-in column that is not registered is a native search for the last text. -/
theorem results_set_sort_column (hknown : type ∈ session.builtins.types)
    (hunregistered : type ∉ session.registry.types)
    (hparse : session.parse session.lastSearch = .ok predicate) :
    (session.step (.setSortColumn type)).results =
      let (answer, store) := Store.cardIds (nativeQuery session.native predicate type) session.store
      (filterNotes session.uniqueNotes
        ((answer.map (reversed · session.direction)).toOption.getD []) store).1 := by
  let started : Session σ :=
    { session with sortType := type, display := session.display ++ [.beginReset] }
  have hsort : started.sortType ∉ started.registry.types := hunregistered
  have hread : started.parse started.lastSearch = .ok predicate := hparse
  rw [step_set_sort_column hknown]
  exact (results_run_search started).trans (answer_of_unregistered hsort hread)

/-- A search for a text, after sorting by a built-in column that is not registered, is native. -/
theorem results_sort_then_search {text : String} (hknown : type ∈ session.builtins.types)
    (hunregistered : type ∉ session.registry.types) (hparse : session.parse text = .ok predicate) :
    let sorted := session.step (.setSortColumn type)
    (sorted.step (.search text)).results =
      let (answer, store) := Store.cardIds (nativeQuery session.native predicate type) sorted.store
      (filterNotes sorted.uniqueNotes
        ((answer.map (reversed · sorted.direction)).toOption.getD []) store).1 := by
  intro sorted
  have hsorted : sorted =
      session.bracketed fun session => runSearch { session with sortType := type } :=
    step_set_sort_column hknown
  have hcolumns := searched_same_columns ({ · with sortType := type }) session
  have hhost : SameHost session
      (session.bracketed fun session => runSearch { session with sortType := type }) :=
    same_host_searched _ ⟨rfl, rfl, rfl, rfl⟩
  rw [← hsorted] at hcolumns hhost
  -- The search for the text begins in this session.
  let started : Session σ :=
    { sorted with lastSearch := text, display := sorted.display ++ [.beginReset] }
  have htype : started.sortType = type := hcolumns.sortType
  have hsort : started.sortType ∉ started.registry.types := by
    rw [htype]
    show type ∉ sorted.registry.types
    rw [hcolumns.registered]
    exact hunregistered
  have hread : started.parse started.lastSearch = .ok predicate := by
    show sorted.parse text = _
    rw [hhost.parse]
    exact hparse
  have hanswer := answer_of_unregistered hsort hread
  rw [htype] at hanswer
  rw [← hhost.native]
  exact (results_run_search started).trans hanswer

/-- Two lists of built-in columns give native searches one query exactly when they give the column
one order, where the default order stands in for one that is missing. -/
theorem native_query_eq_iff {builtins others : BuiltinColumns} :
    nativeQuery builtins predicate type = nativeQuery others predicate type ↔
      (builtins.orderClause type).getD defaultOrder =
        (others.orderClause type).getD defaultOrder := by
  simp [nativeQuery]

end Session

/-- A session that has been opened, has gone through any operations, and then sorts by a built-in
column that is not registered searches natively, in the order that the list of native searches gives
the column. The list on offer would have given the same query exactly if both give the column one
order. -/
theorem results_native {σ : Type} [Store σ] (setup : Setup) (preferences : Preferences) (store : σ)
    (display : List DisplayEvent) (session : Session σ) (operations : List Operation)
    (type text : String) (predicate : Predicate)
    (hopen : setup.open? preferences store display = .ok session)
    (hknown : type ∈ (session.run operations).builtins.types)
    (hunregistered : type ∉ (session.run operations).registry.types)
    (hparse : setup.parse text = .ok predicate) :
    let sorted := (session.run operations).step (.setSortColumn type)
    let query := nativeQuery setup.native predicate type
    ((sorted.step (.search text)).results =
        let (answer, store) := Store.cardIds query sorted.store
        (filterNotes sorted.uniqueNotes
          ((answer.map (reversed · sorted.direction)).toOption.getD []) store).1) ∧
      (query = nativeQuery (session.run operations).builtins predicate type ↔
        (setup.native.orderClause type).getD defaultOrder =
          ((session.run operations).builtins.orderClause type).getD defaultOrder) := by
  intro sorted query
  have hhost : Session.SameHost session (session.run operations) :=
    Session.same_host_run session operations
  have hsession := (open_eq_ok_iff.1 hopen).2.2
  have hparse : (session.run operations).parse text = .ok predicate := by
    rw [hhost.parse, hsession]
    exact hparse
  have hnative : (session.run operations).native = setup.native := by
    rw [hhost.native, hsession]
  refine ⟨?_, Session.native_query_eq_iff⟩
  have hresults := Session.results_sort_then_search hknown hunregistered hparse
  rw [hnative] at hresults
  exact hresults

/-- A host program replaces the list of built-in columns and gives none to native searches. -/
def reverseSetup : Setup where
  builtins := ⟨[{ type := "noteFld", label := "Sort Field", order := some "c.id DESC" }]⟩

/-- A connection to a database with one note and two cards of it. -/
def pairConnection : Database.Connection where
  location := .memory
  config := {}
  database :=
    { notes := some (Database.Table.empty.insert ⟨10, 1, 0, "", "a", "a"⟩)
      cards := some ((Database.Table.empty.insert { id := 1, noteId := 10 }).insert
        { id := 2, noteId := 10 }) }

/-- Sorting by the only column on offer. -/
theorem results_native_replaced : ∃ session predicate,
    reverseSetup.open? {} pairConnection = .ok session ∧ reverseSetup.parse "" = .ok predicate ∧
    let sorted := session.step (.setSortColumn "noteFld")
    (sorted.step (.search "")).results =
      let (answer, store) := Store.cardIds (nativeQuery .standard predicate "noteFld") sorted.store
      (filterNotes sorted.uniqueNotes
        ((answer.map (reversed · sorted.direction)).toOption.getD []) store).1 := by
  obtain ⟨predicate, hparse⟩ : ∃ predicate, reverseSetup.parse "" = .ok predicate := ⟨_, rfl⟩
  refine ⟨_, predicate, rfl, hparse, ?_⟩
  exact (results_native reverseSetup {} pairConnection [] _ [] "noteFld" "" predicate rfl
    (by decide) (by decide) hparse).1

/-- The order clause of the column on offer would put the second card first, but the session shows
the first one first. -/
theorem offered_order_not_followed : ∃ session predicate,
    reverseSetup.open? {} pairConnection = .ok session ∧ reverseSetup.parse "" = .ok predicate ∧
    "noteFld" ∈ session.builtins.types ∧ "noteFld" ∉ session.registry.types ∧
    session.builtins.orderClause "noteFld" = some "c.id DESC" ∧
    (nativeSearch session.builtins predicate "noteFld" .ascending pairConnection).1 = .ok [2, 1] ∧
    (session.step (.setSortColumn "noteFld")).results = [1, 2] := by
  have hoffered : Store.cardIds (nativeQuery reverseSetup.builtins .everything "noteFld")
      pairConnection = (.ok [2, 1], pairConnection) :=
    card_ids_connection (card_ids_pair [⟨Database.cardId, true⟩] [.integer 1, .integer 1]
      [.integer 2, .integer 2] (by decide +kernel) (by decide +kernel))
  have hfollowed : Store.cardIds (nativeQuery .standard .everything "noteFld") pairConnection =
      (.ok [1, 2], pairConnection) :=
    card_ids_connection (card_ids_pair [⟨.noCase (.column (some "n") "sfld"), false⟩,
      ⟨.column (some "c") "ord", false⟩] [.text "a", .integer 0, .integer 1]
      [.text "a", .integer 0, .integer 2] (by decide +kernel) (by decide +kernel))
  obtain ⟨session, hopen⟩ : ∃ session, reverseSetup.open? {} pairConnection = .ok session :=
    ⟨_, rfl⟩
  have hsession := (open_eq_ok_iff.1 hopen).2.2
  have hknown : "noteFld" ∈ session.builtins.types := by
    rw [hsession]
    decide
  have hunregistered : "noteFld" ∉ session.registry.types := by
    rw [hsession]
    decide
  have hparse : session.parse session.lastSearch = .ok .everything := by
    rw [hsession]
    rfl
  have hresults := Session.results_set_sort_column hknown hunregistered hparse
  have hbuiltins : session.builtins = reverseSetup.builtins := by
    rw [hsession]
    rfl
  refine ⟨session, .everything, hopen, rfl, hknown, hunregistered, ?_, ?_, ?_⟩
  · rw [hbuiltins]
    decide
  · unfold nativeSearch
    rw [hbuiltins, hoffered]
    rfl
  · have hnative : session.native = .standard := by
      rw [hsession]
      rfl
    have hstore : session.store = pairConnection := by rw [hsession]
    rw [hresults, hnative, hstore, hfollowed, hsession]
    rfl

end CardBrowser
