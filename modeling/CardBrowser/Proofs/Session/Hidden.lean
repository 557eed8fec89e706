import Mathlib
import CardBrowser.Proofs.Session.Invariant
import CardBrowser.Session.View

/-!
# Hidden columns

Hiding moves built-in columns from the list on offer to the list of those that were hidden.
`Shelves` are the two lists, and everything that happens to them is a sequence of `Shelves.hide`:
what the host program hides at first and then what the operations hide. No column gets lost in this
way. If the types of the columns are distinct, `Shelves.after` says in closed form which columns are
where, and so which list the host program gets back.
-/

namespace CardBrowser

/-! ## Two lists -/

namespace Shelves

variable {builtins : BuiltinColumns} {type : String}

/-- What becomes of a list of columns when the columns of some types are hidden in turn: those of
other types are left in their order, and each of the hidden ones stands where its type was named
first. -/
def after (builtins : BuiltinColumns) (types : List String) : Shelves :=
  ⟨⟨builtins.columns.filter fun column => decide (column.type ∉ types)⟩,
    types.eraseDups.filterMap builtins.get?⟩

/-- Hiding columns one after the other loses none and adds none. -/
theorem perm_hide (shelves : Shelves) (types : List String) :
    (types.foldl hide shelves).columns.Perm shelves.columns := by
  induction types generalizing shelves with
  | nil => exact .refl _
  | cons type types ih =>
      refine (ih (shelves.hide type)).trans ?_
      have hdiscard := (shelves.offered.perm_discard type).append_right shelves.hidden
      refine List.Perm.trans ?_ hdiscard
      show (_ ++ (shelves.hidden ++ _)).Perm (_ ++ _ ++ shelves.hidden)
      rw [List.append_assoc]
      exact List.perm_append_comm.append_left _

/-- Of a list of columns, those are found on offer whose types were not named. -/
theorem get_after (builtins : BuiltinColumns) (types : List String) (type : String) :
    (after builtins types).offered.get? type =
      if type ∈ types then none else builtins.get? type := by
  show (builtins.columns.filter _).find? _ = _
  rw [List.find?_filter]
  split
  · rename_i hmem
    rw [List.find?_eq_none]
    rintro column - htest
    simp only [decide_eq_true_eq, beq_iff_eq] at htest
    exact htest.1 (htest.2 ▸ hmem)
  · rename_i hnot
    refine congrArg (fun test => builtins.columns.find? test) (funext fun column => ?_)
    rw [Bool.eq_iff_iff]
    simp only [decide_eq_true_eq, beq_iff_eq]
    exact ⟨And.right, fun htype => ⟨htype ▸ hnot, htype⟩⟩

/-- Where types are distinct, to hide one more column is to name one more type. -/
theorem hide_after (h : builtins.types.Nodup) (types : List String) (type : String) :
    (after builtins types).hide type = after builtins (types ++ [type]) := by
  have hdistinct : (after builtins types).offered.types.Nodup :=
    h.sublist (List.filter_sublist.map _)
  have hoffered : ((after builtins types).offered.discard type).2 =
      (after builtins (types ++ [type])).offered := by
    refine congrArg BuiltinColumns.mk ((BuiltinColumns.discard_eq_filter hdistinct).trans ?_)
    show (builtins.columns.filter _).filter _ = builtins.columns.filter _
    rw [List.filter_filter]
    refine List.filter_congr fun column _ => ?_
    rw [Bool.eq_iff_iff]
    simp [and_comm]
  have hdups : (types ++ [type]).eraseDups =
      types.eraseDups ++ if type ∈ types then [] else [type] := by
    rw [List.eraseDups_append]
    split
    · rename_i hmem
      simp [List.removeAll, hmem]
    · rename_i hnot
      simp only [List.removeAll, List.filter_cons, List.elem_eq_mem, hnot]
      rfl
  have hhidden : (after builtins types).hidden ++
      ((after builtins types).offered.get? type).toList =
        (after builtins (types ++ [type])).hidden := by
    show types.eraseDups.filterMap builtins.get? ++ _ = (types ++ [type]).eraseDups.filterMap _
    rw [get_after, hdups, List.filterMap_append]
    split
    · rfl
    · cases hbuiltin : builtins.get? type <;> simp [hbuiltin]
  show Shelves.mk ((after builtins types).offered.discard type).2
    ((after builtins types).hidden ++ ((after builtins types).offered.get? type).toList) = _
  rw [hoffered, hhidden]

/-- Where types are distinct, what has become of a list of columns is known from the types alone. -/
theorem hides_eq_after (h : builtins.types.Nodup) (types : List String) :
    types.foldl hide ⟨builtins, []⟩ = after builtins types := by
  -- The types that were named before are generalized.
  have key : ∀ types named : List String,
      types.foldl hide (after builtins named) = after builtins (named ++ types) := by
    intro types
    induction types with
    | nil => exact fun named => by rw [List.append_nil, List.foldl_nil]
    | cons type types ih =>
        intro named
        rw [List.foldl_cons, hide_after h, ih, List.append_assoc, List.singleton_append]
  have hnone : after builtins [] = ⟨builtins, []⟩ := by simp [after]
  rw [← hnone]
  exact key types []

/-- Hidden columns whose types are not there are put back in their order. -/
theorem restore_eq {removed : List BuiltinColumn}
    (h : ((builtins.columns ++ removed).map (·.type)).Nodup) :
    builtins.restore removed = ⟨builtins.columns ++ removed⟩ := by
  induction removed generalizing builtins with
  | nil => rw [List.append_nil]; rfl
  | cons column removed ih =>
      have hnew : builtins.contains column.type = false := by
        rw [Bool.eq_false_iff, Ne, BuiltinColumns.contains_iff]
        rw [List.map_append, List.map_cons, List.nodup_append] at h
        exact fun hmem => h.2.2 _ hmem _ List.mem_cons_self rfl
      have hstep : builtins.restore (column :: removed) =
          (BuiltinColumns.mk (builtins.columns ++ [column])).restore removed := by
        unfold BuiltinColumns.restore
        rw [List.foldl_cons, hnew]
        rfl
      rw [hstep, ih (by simpa using h), List.append_assoc]
      rfl

end Shelves

/-! ## What a browser hides -/

namespace Offer

variable {offer next : Offer} {type : String}

/-- A host program hides the columns that it names, without the protected one. -/
theorem shelves_hide_all (isProtected : String) (types : List String) (offer : Offer) :
    (hideAll isProtected types offer).shelves =
      (types.filter (· ≠ isProtected)).foldl Shelves.hide offer.shelves := by
  induction types generalizing offer with
  | nil => rfl
  | cons type types ih =>
      unfold hideAll at ih ⊢
      rw [List.foldl_cons, ih]
      split
      · rename_i hprotected
        rw [List.filter_cons_of_neg (by simpa using hprotected)]
      · rename_i hother
        rw [List.filter_cons_of_pos (by simpa using hother), List.foldl_cons, shelves_hide]

/-- A column that was hidden is not known if the types of the built-in columns are distinct. -/
theorem not_knows_of_hide (hdistinct : offer.builtins.types.Nodup)
    (h : offer.hide type = some next) : next.knows type = false := by
  have hnext : (offer.discard type).2 = next := by
    rw [discard_eq, h]
    rfl
  rw [Bool.eq_false_iff, Ne, knows_iff, ← hnext]
  rintro (hmem | hmem)
  · obtain ⟨column, hcolumn, rfl⟩ := List.mem_map.1 hmem
    have hkept : column ∈ (offer.builtins.discard column.type).2.columns := hcolumn
    rw [BuiltinColumns.discard_eq_filter hdistinct] at hkept
    exact absurd (List.mem_filter.1 hkept).2 (by simp)
  · obtain ⟨column, hcolumn, rfl⟩ := List.mem_map.1 hmem
    exact absurd (List.mem_filter.1 hcolumn).2 (by simp)

end Offer

namespace Session

variable {σ : Type} [Store σ] {session next : Session σ} {operation : Operation} {type : String}

/-- The types that a history asks to hide, without the default sort column. -/
def requests (session : Session σ) (operations : List Operation) : List String :=
  (operations.filterMap Operation.hides?).filter (· ≠ session.config.defaultSortType)

/-- A step hides the column that its operation names, unless it is the default sort column. -/
theorem shelves_step (session : Session σ) (operation : Operation) :
    (session.step operation).offer.shelves =
      (session.requests [operation]).foldl Shelves.hide session.offer.shelves := by
  cases operation with
  | removeColumn type =>
      show ((session.removeColumn type).toOption.getD session).offer.shelves =
        ([type].filter (· ≠ session.config.defaultSortType)).foldl Shelves.hide _
      unfold removeColumn
      split
      · rename_i hdefault
        rw [List.filter_cons_of_neg (by simpa using hdefault)]
        rfl
      · rename_i hother
        rw [List.filter_cons_of_pos (by simpa using hother), List.filter_nil, List.foldl_cons,
          List.foldl_nil, ← Offer.shelves_hide]
        cases session.offer.hide type with
        | none => rfl
        | some offer => exact (same_offer_drop_column type (session.withOffer offer)).shelves
  | _ =>
      exact step_of_apply (motive := fun other => other.offer.shelves = session.offer.shelves) rfl
        fun next h => (offer_of_apply h).2.1

/-- A history hides the columns that it names, one after the other. -/
theorem shelves_run (session : Session σ) (operations : List Operation) :
    (session.run operations).offer.shelves =
      (session.requests operations).foldl Shelves.hide session.offer.shelves := by
  induction operations generalizing session with
  | nil => rfl
  | cons operation operations ih =>
      have hconfig : (session.step operation).config = session.config :=
        (builtins_of_run [operation]).1
      have hlater : (session.step operation).requests operations = session.requests operations := by
        unfold requests
        rw [hconfig]
      have hcons : session.requests (operation :: operations) =
          session.requests [operation] ++ session.requests operations := by
        unfold requests
        rw [← List.filter_append, ← List.filterMap_append, List.singleton_append]
      show ((session.step operation).run operations).offer.shelves = _
      rw [ih, shelves_step, hlater, hcons, List.foldl_append]

/-! ## Columns that are not there -/

/-- A session has no column of a type, neither to show nor to sort by nor to choose. -/
structure Lacks (session : Session σ) (type : String) : Prop where
  unknown : session.knows type = false
  hidden : type ∉ session.active.types
  unsorted : session.sortType ≠ type
  unavailable : type ∉ session.availableColumns.map (·.type)
  toggled : session.toggleColumn type = .error (.notFound type)
  sorted : session.setSortColumn type = .error (.notFound type)

omit [Store σ] in
/-- A column to choose is known. -/
theorem knows_of_mem_available (h : type ∈ session.availableColumns.map (·.type)) :
    session.knows type = true := by
  obtain ⟨column, hcolumn, rfl⟩ := List.mem_map.1 h
  have hlisted := (Registry.perm_sort_by_label AvailableColumn.label _).mem_iff.1 hcolumn
  rw [knows_iff]
  rcases List.mem_append.1 hlisted with hmem | hmem
  · obtain ⟨builtin, hbuiltin, rfl⟩ := List.mem_map.1 hmem
    exact Or.inl (List.mem_map_of_mem (List.mem_filter.1 hbuiltin).1)
  · obtain ⟨custom, hcustom, rfl⟩ := List.mem_map.1 hmem
    exact Or.inr (List.mem_map_of_mem hcustom)

/-- A sound session has nothing of a type that it does not know. -/
theorem Sound.lacks (h : session.Sound) (hunknown : session.knows type = false) :
    session.Lacks type := by
  have hnot : ¬ session.knows type = true := Bool.eq_false_iff.1 hunknown
  constructor
  · exact hunknown
  · exact fun hmem => hnot (h.displayed type hmem)
  · rintro rfl
    exact hnot h.sort
  · exact fun hmem => hnot (knows_of_mem_available hmem)
  · unfold toggleColumn
    rw [if_neg hnot]
  · unfold setSortColumn
    rw [if_neg hnot]

/-- A type that is not known stays so until a column of it is registered. -/
theorem not_knows_run {operations : List Operation} (h : session.knows type = false)
    (hoperations : ∀ operation ∈ operations, ¬ operation.Registers type) :
    (session.run operations).knows type = false := by
  induction operations generalizing session with
  | nil => exact h
  | cons operation operations ih =>
      rw [List.forall_mem_cons] at hoperations
      refine ih (step_of_apply (motive := fun other => other.knows type = false) h
        fun next hnext => ?_) hoperations.2
      rw [Bool.eq_false_iff, Ne, knows_iff] at h ⊢
      rintro (hmem | hmem)
      · exact h (Or.inl ((builtins_of_apply hnext).2 type hmem))
      · exact (mem_registered_of_apply hnext hmem).elim (fun hmem => h (Or.inr hmem))
          hoperations.1

/-- A column that was removed is not known any more if the types of the built-in columns are
distinct. -/
theorem not_knows_of_remove (hdistinct : session.builtins.types.Nodup)
    (h : session.apply (.removeColumn type) = .ok next) : next.knows type = false := by
  obtain ⟨-, offer, hhide, rfl⟩ := remove_column_eq_ok_iff.1 h
  rw [(drop_column_same_columns type (session.withOffer offer)).knows]
  exact Offer.not_knows_of_hide hdistinct hhide

/-- What comes of writing the preferences of a session when it is closed. -/
def flushed {π : Type} [PreferenceStore π] (session : Session σ) (closing : π) :
    Except PreferenceError Unit :=
  (PreferenceStore.flush (PreferenceStore.withValues
    (session.preferences.save session.config.keys (PreferenceStore.values closing)) closing)).1

end Session

/-! ## What a host program gets back -/

/-- The types that a host program and a history ask to hide, without the default sort column. -/
def Setup.requests (setup : Setup) (operations : List Operation) : List String :=
  (setup.removals ++ operations.filterMap Operation.hides?).filter
    (· ≠ setup.config.defaultSortType)

/-- The shelves of a session that was opened and has gone through a history. -/
theorem shelves_of_open {σ : Type} [Store σ] {setup : Setup} {preferences : Preferences} {store : σ}
    {display : List DisplayEvent} {session : Session σ} (operations : List Operation)
    (h : setup.open? preferences store display = .ok session) :
    (session.run operations).offer.shelves =
      (setup.requests operations).foldl Shelves.hide ⟨setup.builtins, []⟩ := by
  obtain ⟨-, -, rfl⟩ := open_eq_ok_iff.1 h
  rw [Session.shelves_run]
  show List.foldl _ setup.offer.shelves _ = _
  unfold Setup.offer
  rw [Offer.shelves_hide_all]
  unfold Setup.requests Session.requests
  rw [List.filter_append, List.foldl_append]
  rfl

/-- In every session that a host program opens with the columns it registers, and that has gone
through any operations, the built-in columns on offer and the hidden ones are those that the host
program has brought. If their types are distinct, then after a column is removed there is none of
its type until one is registered; and the host program gets back, unless the preferences cannot be
written, all the columns it has brought, those first that were never removed, in their order, and
then the others in the order in which they were removed. -/
theorem hidden_and_restored {σ π κ : Type} [Store σ] [PreferenceStore π] [PreferenceStore κ]
    (setup : Setup) (columns : List CustomColumn) (saved : π) (store : σ)
    (display : List DisplayEvent) (session : Session σ) (operations : List Operation) (closing : κ)
    (hopen : { setup with registry := Registry.ofColumns columns }.openSaved? saved store display =
      .ok session) :
    ((session.run operations).builtins.columns ++ (session.run operations).removed).Perm
        setup.builtins.columns ∧
      (setup.builtins.types.Nodup →
        (∀ type next later, (session.run operations).apply (.removeColumn type) = .ok next →
          (∀ operation ∈ later, ¬ operation.Registers type) → (next.run later).Lacks type) ∧
        ∃ builtins : BuiltinColumns,
          ((session.run operations).finalize closing).1 =
              ((session.run operations).flushed closing).map (fun _ => builtins) ∧
            builtins.columns.Perm setup.builtins.columns ∧
            builtins.columns =
              setup.builtins.columns.filter
                  (fun column => decide (column.type ∉ setup.requests operations)) ++
                (setup.requests operations).eraseDups.filterMap setup.builtins.get?) := by
  have hshelves : (session.run operations).offer.shelves =
      (setup.requests operations).foldl Shelves.hide ⟨setup.builtins, []⟩ :=
    @shelves_of_open σ _ { setup with registry := Registry.ofColumns columns } _ _ _ _ operations
      hopen
  have hperm : (session.run operations).offer.shelves.columns.Perm setup.builtins.columns := by
    have hall : (Shelves.mk setup.builtins []).columns = setup.builtins.columns :=
      List.append_nil _
    rw [hshelves, ← hall]
    exact Shelves.perm_hide _ _
  refine ⟨hperm, fun hdistinct => ?_⟩
  have hnodup : ((session.run operations).offer.shelves.columns.map (·.type)).Nodup :=
    (hperm.map BuiltinColumn.type).nodup_iff.2 hdistinct
  have hsound : (session.run operations).Sound :=
    (sound_open (Registry.empty_not_mem_of_columns columns) hopen).run operations
  constructor
  · intro type next later happly hlater
    have hoffered : (session.run operations).builtins.types.Nodup :=
      hnodup.sublist ((List.sublist_append_left _ _).map _)
    exact ((hsound.apply happly).run later).lacks
      (Session.not_knows_run (Session.not_knows_of_remove hoffered happly) hlater)
  · refine ⟨⟨(session.run operations).offer.shelves.columns⟩, ?_, hperm, ?_⟩
    · have hrestored : (session.run operations).restoredBuiltins =
          ⟨(session.run operations).offer.shelves.columns⟩ := Shelves.restore_eq hnodup
      rw [← hrestored]
      rfl
    · rw [hshelves, Shelves.hides_eq_after hdistinct]
      rfl

/-- A host program hides a built-in column at first, and a custom column that shadows another one is
removed, registered and removed again: each built-in column is hidden once. -/
theorem hidden_and_restored_shadowed : ∃ (session : Session Script) (builtins : BuiltinColumns),
    { ({ removals := ["deck", "noteFld"] } : Setup) with
      registry := Registry.ofColumns
        [{ type := "cardDue", label := "Due again", value := fun _ _ => "" }] }.openSaved?
      ({} : MemoryPreferences) ({} : Script) = .ok session ∧
    ((session.run [.removeColumn "cardDue",
        .registerColumn { type := "cardDue", label := "Due at last", value := fun _ _ => "" },
        .removeColumn "cardDue", .removeColumn "answer"]).finalize
      ({} : MemoryPreferences)).1 = .ok builtins ∧
    builtins.types = ["question", "template", "noteFld", "noteCrt", "noteMod", "cardMod", "cardIvl",
      "cardEase", "cardReps", "cardLapses", "noteTags", "note", "deck", "cardDue", "answer"] := by
  have h := hidden_and_restored { removals := ["deck", "noteFld"] }
    [{ type := "cardDue", label := "Due again", value := fun _ _ => "" }]
    ({} : MemoryPreferences) ({} : Script) [] _ [.removeColumn "cardDue",
      .registerColumn { type := "cardDue", label := "Due at last", value := fun _ _ => "" },
      .removeColumn "cardDue", .removeColumn "answer"] ({} : MemoryPreferences) rfl
  obtain ⟨builtins, hfinalize, -, hcolumns⟩ := (h.2 (by decide)).2
  refine ⟨_, builtins, rfl, hfinalize, ?_⟩
  unfold BuiltinColumns.types
  rw [hcolumns]
  decide

end CardBrowser
