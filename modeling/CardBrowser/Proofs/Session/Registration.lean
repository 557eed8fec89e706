import Mathlib
import CardBrowser.Proofs.Session.Coherence

/-!
# Columns that are registered while a result is shown

A session searches again when its sort column goes away, but not when a column is registered. So
what it shows are the results of its last search, sorted by what the sort column sorted by then:
`results_after_register`. They are what a search would find now unless the sort column itself was
registered in the meantime; a column that is registered in its place leaves stale results,
`results_stale_after_register`.
-/

namespace CardBrowser

open CardBrowser.Search

/-- An operation registers no column that answers differently when it is asked again. -/
def Operation.IsFixed (operation : Operation) : Prop :=
  ∀ column, operation = .registerColumn column → column.IsFixed

namespace Session

variable {σ : Type} [Store σ] {origin searched session next : Session σ} {operation : Operation}
  {operations : List Operation}

/-- An operation is not refused and searches again. -/
def Searches (session : Session σ) (operation : Operation) : Prop :=
  (∃ next, session.apply operation = .ok next) ∧ operation.Searches session.sortType

/-- No operation of a history searches again. -/
def Quiet (session : Session σ) : List Operation → Prop
  | [] => True
  | operation :: operations =>
    ¬ session.Searches operation ∧ Quiet (session.step operation) operations

/-- A session still shows the results of an earlier one, and nothing that they depend on has changed
but the columns on offer. -/
structure Shows (searched session : Session σ) : Prop where
  host : SameHost searched session
  store : session.store = searched.store
  lastSearch : session.lastSearch = searched.lastSearch
  sortType : session.sortType = searched.sortType
  direction : session.direction = searched.direction
  uniqueNotes : session.uniqueNotes = searched.uniqueNotes
  results : session.results = searched.results
  fixed : session.registry.IsFixed

omit [Store σ] in
/-- A session with fixed columns shows its own results. -/
theorem Shows.refl (h : session.registry.IsFixed) : Shows session session :=
  ⟨⟨rfl, rfl, rfl, rfl⟩, rfl, rfl, rfl, rfl, rfl, rfl, h⟩

omit [Store σ] in
/-- What is shown at each of two steps is shown at the end. -/
theorem Shows.trans (h : Shows searched session) (hnext : Shows session next) :
    Shows searched next :=
  ⟨h.host.trans hnext.host, hnext.store.trans h.store, hnext.lastSearch.trans h.lastSearch,
    hnext.sortType.trans h.sortType, hnext.direction.trans h.direction,
    hnext.uniqueNotes.trans h.uniqueNotes, hnext.results.trans h.results, hnext.fixed⟩

omit [Store σ] in
/-- Such sessions search alike if the sort column sorts by the same. -/
theorem Shows.same_search (h : Shows searched session)
    (hkey : (session.registry.sortKey searched.sortType).1 =
      (searched.registry.sortKey searched.sortType).1) : SameSearch searched session :=
  ⟨h.host, h.lastSearch, h.sortType, h.direction, h.uniqueNotes, hkey⟩

/-! ## Operations that do not search -/

/-- An operation that is not refused and does not search again goes on showing the results. The sort
column sorts by the same as before unless it is registered. -/
theorem shows_of_apply (hfixed : session.registry.IsFixed) (hoperation : operation.IsFixed)
    (hquiet : ¬ operation.Searches session.sortType) (h : session.apply operation = .ok next) :
    Shows session next ∧ (¬ operation.Registers session.sortType →
      (next.registry.sortKey session.sortType).1 =
        (session.registry.sortKey session.sortType).1) := by
  by_cases hregisters : operation.Registers session.sortType
  · cases operation with
    | registerColumn column =>
        obtain ⟨registry, hregister, rfl⟩ := register_column_eq_ok_iff.1 h
        exact ⟨⟨⟨rfl, rfl, rfl, rfl⟩, rfl, rfl, rfl, rfl, rfl, rfl,
          hfixed.register (hoperation column rfl) hregister⟩, fun hnot => absurd hregisters hnot⟩
    | _ => exact hregisters.elim
  · have hspares : operation.Spares session.sortType := by
      rintro column rfl
      refine ⟨hoperation column rfl, fun htype => hregisters ⟨htype, ?_⟩⟩
      obtain ⟨registry, hregister, -⟩ := register_column_eq_ok_iff.1 h
      exact Registry.ne_empty_of_register hregister
    rcases apply_cases hfixed hspares h with ⟨hsearches, -⟩ | ⟨-, haltered, hsame, hresults⟩
    · exact absurd hsearches hquiet
    · exact ⟨⟨hsame.host, haltered.store, hsame.lastSearch, hsame.sortType, hsame.direction,
        hsame.uniqueNotes, hresults, haltered.fixed⟩, fun _ => hsame.key⟩

/-- A step that does not search goes on showing the results. -/
theorem shows_step (hfixed : session.registry.IsFixed) (hoperation : operation.IsFixed)
    (hquiet : ¬ session.Searches operation) :
    Shows session (session.step operation) ∧ (¬ operation.Registers session.sortType →
      ((session.step operation).registry.sortKey session.sortType).1 =
        (session.registry.sortKey session.sortType).1) := by
  cases happly : session.apply operation with
  | error error =>
      rw [step_of_error happly]
      exact ⟨.refl hfixed, fun _ => rfl⟩
  | ok next =>
      rw [step_of_ok happly]
      exact shows_of_apply hfixed hoperation (fun hsearches => hquiet ⟨⟨next, happly⟩, hsearches⟩)
        happly

/-- A history that does not search goes on showing the results. -/
theorem shows_run (hfixed : session.registry.IsFixed)
    (hoperations : ∀ operation ∈ operations, operation.IsFixed)
    (hquiet : session.Quiet operations) :
    Shows session (session.run operations) ∧
      ((∀ operation ∈ operations, ¬ operation.Registers session.sortType) →
        ((session.run operations).registry.sortKey session.sortType).1 =
          (session.registry.sortKey session.sortType).1) := by
  induction operations generalizing session with
  | nil => exact ⟨.refl hfixed, fun _ => rfl⟩
  | cons operation operations ih =>
      rw [List.forall_mem_cons] at hoperations
      obtain ⟨hshows, hkey⟩ := shows_step hfixed hoperations.1 hquiet.1
      obtain ⟨hlater, hlaterKey⟩ := ih hshows.fixed hoperations.2 hquiet.2
      rw [hshows.sortType] at hlaterKey
      refine ⟨hshows.trans hlater, fun hregisters => ?_⟩
      rw [List.forall_mem_cons] at hregisters
      exact (hlaterKey hregisters.2).trans (hkey hregisters.1)

/-! ## The last search -/

/-- An operation that is not refused leads on, whatever it registers. -/
theorem Follows.apply_fixed (hsteady : origin.IsSteady) (h : Follows origin session)
    (hoperation : operation.IsFixed) (happly : session.apply operation = .ok next) :
    Follows origin next ∧ (operation.Searches session.sortType → Coherent origin next) := by
  by_cases hsearches : operation.Searches session.sortType
  · have hspares : operation.Spares session.sortType := by
      rintro column rfl
      exact hsearches.elim
    exact h.apply hsteady hspares happly
  · obtain ⟨hshows, -⟩ := shows_of_apply h.fixed hoperation hsearches happly
    exact ⟨h.altered ⟨hshows.host, hshows.store, hshows.fixed⟩, fun hnow => absurd hnow hsearches⟩

/-- A history leads on, whatever it registers. -/
theorem Follows.run_fixed (hsteady : origin.IsSteady) (h : Follows origin session)
    (hoperations : ∀ operation ∈ operations, operation.IsFixed) :
    Follows origin (session.run operations) := by
  induction operations generalizing session with
  | nil => exact h
  | cons operation operations ih =>
      rw [List.forall_mem_cons] at hoperations
      refine ih ?_ hoperations.2
      exact step_of_apply h fun next happly =>
        (h.apply_fixed hsteady hoperations.1 happly).1

/-- A step that searches shows what the search finds. -/
theorem Follows.step_fixed (hsteady : origin.IsSteady) (h : Follows origin session)
    (hoperation : operation.IsFixed) (hsearches : session.Searches operation) :
    Coherent origin (session.step operation) := by
  obtain ⟨⟨next, happly⟩, hsearches⟩ := hsearches
  rw [step_of_ok happly]
  exact (h.apply_fixed hsteady hoperation happly).2 hsearches

/-- A history that searches has a last search. -/
theorem exists_last_search (session : Session σ) (operations : List Operation) :
    session.Quiet operations ∨ ∃ earlier operation later,
      operations = earlier ++ operation :: later ∧ (session.run earlier).Searches operation ∧
        ((session.run earlier).step operation).Quiet later := by
  induction operations generalizing session with
  | nil => exact Or.inl trivial
  | cons operation operations ih =>
      rcases ih (session.step operation) with hquiet | ⟨earlier, last, later, rfl, hlast, hquiet⟩
      · by_cases hsearches : session.Searches operation
        · exact Or.inr ⟨[], operation, operations, rfl, hsearches, hquiet⟩
        · exact Or.inl ⟨hsearches, hquiet⟩
      · exact Or.inr ⟨operation :: earlier, last, later, rfl, hlast, hquiet⟩

/-- Registering a column leaves the results as they are. They are what the last search would find
if the custom columns were those of the time when it was made, so they are what it would find now
if the sort column sorts by the same as then. That is the case if it has not been registered
since. -/
theorem results_after_register (session : Session σ) (operations : List Operation)
    (column : CustomColumn) (hsteady : session.IsSteady) (hfixed : session.registry.IsFixed)
    (hoperations : ∀ operation ∈ operations, operation.IsFixed)
    (hsearched : ¬ session.Quiet operations) (hcolumn : column.IsFixed) (htype : column.type ≠ "") :
    ∃ earlier operation later searched after,
      operations = earlier ++ operation :: later ∧ (session.run earlier).Searches operation ∧
      searched = (session.run earlier).step operation ∧ searched.Quiet later ∧
      (session.run operations).registerColumn column = .ok after ∧
      after.results = (session.run operations).results ∧
      after.results = { after with registry := searched.registry }.answer ∧
      ((after.registry.sortKey after.sortType).1 = (searched.registry.sortKey after.sortType).1 →
        after.results = after.answer) ∧
      ((∀ operation ∈ later ++ [.registerColumn column], ¬ operation.Registers after.sortType) →
        after.results = after.answer) := by
  obtain ⟨earlier, operation, later, rfl, hsearches, hquiet⟩ :=
    (exists_last_search session operations).resolve_left hsearched
  obtain ⟨hearlier, hlater⟩ := List.forall_mem_append.1 hoperations
  rw [List.forall_mem_cons] at hlater
  have hfollows : Follows session (session.run earlier) :=
    Follows.run_fixed hsteady ⟨⟨rfl, rfl, rfl, rfl⟩, .start, hfixed⟩ hearlier
  have hcoherent := hfollows.step_fixed hsteady hlater.1 hsearches
  have hrun : session.run (earlier ++ operation :: later) =
      ((session.run earlier).step operation).run later := run_around earlier later operation
  generalize hstep : (session.run earlier).step operation = searched at hcoherent hrun hquiet
  obtain ⟨registry, hregister⟩ := Registry.register_ok_iff.2 htype
  obtain ⟨after, hafter⟩ : ∃ after,
      (searched.run later).apply (.registerColumn column) = .ok after :=
    ⟨_, register_column_eq_ok_iff.2 ⟨registry, hregister, rfl⟩⟩
  -- Registering is one more operation that does not search.
  obtain ⟨hrests, hkey⟩ := shows_run hcoherent.fixed hlater.2 hquiet
  obtain ⟨hregistered, hregisteredKey⟩ :=
    shows_of_apply hrests.fixed (by rintro _ ⟨⟩; exact hcolumn) id hafter
  have hshows : Shows searched after := hrests.trans hregistered
  have hsame : (after.registry.sortKey after.sortType).1 =
      (searched.registry.sortKey after.sortType).1 → after.results = after.answer := by
    intro hkey
    rw [hshows.sortType] at hkey
    calc after.results
        = searched.results := hshows.results
      _ = searched.answer := hcoherent.results
      _ = after.answer := ((hshows.same_search hkey).answer_eq hshows.store).symm
  refine ⟨earlier, operation, later, searched, after, rfl, hsearches, hstep.symm, hquiet,
    hrun ▸ hafter, hrun ▸ hregistered.results, ?_, hsame, fun hregisters => hsame ?_⟩
  · have halike : SameSearch searched { after with registry := searched.registry } :=
      ⟨⟨hshows.host.config, hshows.host.parse, hshows.host.native, hshows.host.forced⟩,
        hshows.lastSearch, hshows.sortType, hshows.direction, hshows.uniqueNotes, rfl⟩
    rw [hshows.results, hcoherent.results]
    exact (halike.answer_eq hshows.store).symm
  · rw [hshows.sortType] at hregisters ⊢
    obtain ⟨hlaterRegisters, hcolumnRegisters⟩ := List.forall_mem_append.1 hregisters
    rw [hrests.sortType] at hregisteredKey
    exact (hregisteredKey (hcolumnRegisters _ List.mem_cons_self)).trans (hkey hlaterRegisters)

/-! ## A sort column that is registered again -/

/-- A column of type `k` that sorts by an expression. -/
def sortedBy (expression : String) : CustomColumn where
  type := "k"
  label := "k"
  value := fun _ _ => ""
  sort := some (.constant (.ok expression))

/-- Such a column always sorts by the same. -/
theorem is_fixed_sorted_by (expression : String) : (sortedBy expression).IsFixed := by
  rintro source ⟨⟩ m n
  rfl

/-- A browser that sorts by the intervals of cards. -/
def intervalSetup : Setup where
  registry := { columns := [sortedBy "c.ivl"] }

/-- Two cards, of which the one that is due first has the longer interval. -/
def intervalConnection : Database.Connection where
  location := .memory
  config := {}
  database :=
    { notes := some (Database.Table.empty.insert ⟨10, 1, 0, "", "a", "a"⟩)
      cards := some ((Database.Table.empty.insert
        { id := 1, noteId := 10, due := 1, interval := 2 }).insert
          { id := 2, noteId := 10, due := 2, interval := 1 }) }

/-- A browser on this connection is steady, and its columns are fixed. -/
theorem steady_interval {session : Session Database.Connection}
    (h : intervalSetup.open? { sortType := some "k" } intervalConnection = .ok session) :
    session.IsSteady ∧ session.registry.IsFixed := by
  obtain ⟨-, -, rfl⟩ := open_eq_ok_iff.1 h
  constructor
  · exact is_steady_connection Database.names_sort_table_tmp rfl
  · intro column hcolumn
    obtain rfl := List.mem_singleton.1 hcolumn
    exact is_fixed_sorted_by "c.ivl"

/-- A column that is registered beside the sort column leaves the results fresh. -/
theorem results_after_register_beside : ∃ session after,
    intervalSetup.open? { sortType := some "k" } intervalConnection = .ok session ∧
      (session.run [.search "a"]).registerColumn unorderedColumn = .ok after ∧
      after.results = after.answer := by
  obtain ⟨session, hopen⟩ : ∃ session,
      intervalSetup.open? { sortType := some "k" } intervalConnection = .ok session := ⟨_, rfl⟩
  obtain ⟨hsteady, hfixed⟩ := steady_interval hopen
  obtain ⟨earlier, operation, later, searched, after, hsplit, -, hsearched, -, hafter, -, -, -,
      hfresh⟩ := results_after_register session [.search "a"] unorderedColumn hsteady hfixed
    (by rintro operation hmem column rfl; simp at hmem)
    (fun hquiet => hquiet.1 ⟨⟨_, rfl⟩, trivial⟩) (by rintro source ⟨⟩ m n; rfl) (by decide)
  refine ⟨session, after, hopen, hafter, hfresh ?_⟩
  -- The only search is the last one, and the column has another type than the sort column.
  obtain ⟨rfl, hsplit⟩ : earlier = [] ∧ [Operation.search "a"] = operation :: later := by
    cases earlier with
    | nil => exact ⟨rfl, hsplit⟩
    | cons first earlier => cases earlier <;> cases hsplit
  obtain ⟨rfl, rfl⟩ := List.cons.inj hsplit
  have hsort : after.sortType = "k" := by
    obtain ⟨registry, -, rfl⟩ := register_column_eq_ok_iff.1 hafter
    obtain ⟨-, -, rfl⟩ := open_eq_ok_iff.1 hopen
    exact (searched_same_columns ({ · with lastSearch := "a" }) _).sortType
  rw [hsort]
  simp [Operation.Registers, unorderedColumn]

/-- What a search in ascending order finds by a plan that succeeds. -/
theorem answer_of_run {session : Session σ} {predicate : Predicate} {plan : Plan}
    {ids : List Int} (hparse : session.parse session.lastSearch = .ok predicate)
    (hplan : (planFor session.registry session.planOptions predicate session.sortType).1 =
      some plan)
    (hrun : (plan.run session.direction session.store).1 = .ok ids)
    (hunique : session.uniqueNotes = false) : session.answer = ids := by
  have hexecute : (plan.execute session.direction session.store).1 = ids := by
    show (plan.run session.direction session.store).1.toOption.getD [] = ids
    rw [hrun]
    rfl
  unfold answer
  rw [hparse]
  dsimp only
  rw [hplan, hunique]
  exact hexecute

/-- After the sort column was registered anew, by due dates, the session still shows the cards in
the order of their intervals. A search would turn them round. -/
theorem results_stale_after_register : ∃ session after,
    intervalSetup.open? { sortType := some "k" } intervalConnection = .ok session ∧
      session.IsSteady ∧ session.registry.IsFixed ∧ (sortedBy "c.due").IsFixed ∧
      (session.run [.search ""]).registerColumn (sortedBy "c.due") = .ok after ∧
      after.results = [2, 1] ∧ after.answer = [1, 2] := by
  obtain ⟨session, hopen⟩ : ∃ session,
      intervalSetup.open? { sortType := some "k" } intervalConnection = .ok session := ⟨_, rfl⟩
  obtain ⟨hsteady, hfixed⟩ := steady_interval hopen
  have hparse : Predicate.ofText 0 "" = .ok .everything := by decide
  have hintervals : ((Plan.inline .everything "c.ivl").run .ascending intervalConnection).1 =
      .ok [2, 1] :=
    run_inline_eq_ok (by decide) ⟨rfl, rfl⟩
      (show Sql.Expr.ofText? "c.ivl" = some (cardColumn "ivl") by decide)
      (by decide) (show _ = [1, 2] by decide) (by decide) (by decide)
  have hdues : ((Plan.inline .everything "c.due").run .ascending intervalConnection).1 =
      .ok [1, 2] :=
    run_inline_eq_ok (by decide) ⟨rfl, rfl⟩
      (show Sql.Expr.ofText? "c.due" = some (cardColumn "due") by decide)
      (by decide) (show _ = [1, 2] by decide) (by decide) (by decide)
  refine ⟨session, _, hopen, hsteady, hfixed, is_fixed_sorted_by _, rfl, ?_, ?_⟩ <;>
    obtain ⟨-, -, rfl⟩ := open_eq_ok_iff.1 hopen
  · exact (results_run_search _).trans (answer_of_run hparse (by decide) hintervals rfl)
  · exact answer_of_run hparse (by decide) hdues rfl

end Session

end CardBrowser
