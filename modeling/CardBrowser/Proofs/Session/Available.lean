import Mathlib
import CardBrowser.Proofs.Column.Calls
import CardBrowser.Proofs.Column.Sorted
import CardBrowser.Proofs.Session.Hidden

/-!
# Columns to choose from

The columns to choose from are put together from two lists, while an operation that is given a type
asks the two lists on its own. `available_columns_usable` says that both mean the same columns in
every session, and how the columns are listed. It needs that no type is registered twice, which
every operation keeps because it makes at most one call of the registry: `nodup_registered_run`.
-/

namespace CardBrowser

/-! ## Registered types -/

/-- No type is registered twice after columns have been hidden. -/
theorem Offer.nodup_hide_all (isProtected : String) (types : List String) {offer : Offer}
    (h : offer.registry.types.Nodup) : (hideAll isProtected types offer).registry.types.Nodup := by
  induction types generalizing offer with
  | nil => exact h
  | cons type types ih =>
      refine ih ?_
      dsimp only
      split
      · exact h
      · cases hhide : offer.hide type with
        | none => exact h
        | some next => exact registry_of_hide hhide ▸ Registry.nodup_types_step h

namespace Session

variable {σ : Type} [Store σ] {session next : Session σ}

/-- A history registers no type twice. -/
theorem nodup_registered_run (h : session.registry.types.Nodup) (operations : List Operation) :
    (session.run operations).registry.types.Nodup := by
  refine run_induction (motive := fun other => other.registry.types.Nodup) ?_ h operations
  intro session next operation h happly
  rw [(offer_of_apply happly).2.2]
  cases operation.call? with
  | none => exact h
  | some call => exact Registry.nodup_types_step h

end Session

/-- In every session no type is registered twice. -/
theorem nodup_registered {σ : Type} [Store σ] {setup : Setup} {preferences : Preferences}
    {store : σ} {display : List DisplayEvent} {session : Session σ} {columns : List CustomColumn}
    (hopen : { setup with registry := Registry.ofColumns columns }.open? preferences store display =
      .ok session) (operations : List Operation) :
    (session.run operations).registry.types.Nodup := by
  obtain ⟨-, -, rfl⟩ := open_eq_ok_iff.1 hopen
  refine Session.nodup_registered_run ?_ operations
  refine Offer.nodup_hide_all _ _ ?_
  show (Registry.ofColumns columns).types.Nodup
  rw [Registry.of_columns_eq_run]
  exact (Registry.types_run_well_formed _).1

/-! ## The list -/

namespace Session

variable {σ : Type} {session : Session σ}

/-- The columns to choose from before they are sorted. -/
def unsortedColumns (session : Session σ) : List AvailableColumn :=
  (session.builtins.columns.filter fun column => !session.registry.contains column.type).map
      (fun column => ⟨column.type, column.label, false⟩) ++
    session.registry.columns.map fun column => ⟨column.type, column.label, true⟩

/-- The list that a column is taken from has it before another one, and built-in columns come before
custom ones. -/
def Precedes (session : Session σ) (first second : AvailableColumn) : Prop :=
  match first.isCustom, second.isCustom with
  | false, false => [first.type, second.type].Sublist session.builtins.types
  | false, true => True
  | true, false => False
  | true, true => [first.type, second.type].Sublist session.registry.types

/-- The columns to choose from are sorted by their labels. -/
theorem available_columns_stable :
    IsStableSort (fun column => Text.lowercase column.label) session.unsortedColumns
      session.availableColumns :=
  Registry.sort_by_label_stable AvailableColumn.label _

/-- The types of the columns to choose from are those of the two lists. -/
theorem types_unsorted_columns :
    session.unsortedColumns.map (·.type) =
      session.builtins.types.filter (fun type => decide (type ∉ session.registry.types)) ++
        session.registry.types := by
  have hshown : session.builtins.columns.filter (!session.registry.contains ·.type) =
      session.builtins.columns.filter
        ((fun type => decide (type ∉ session.registry.types)) ∘ (·.type)) := by
    refine List.filter_congr fun column _ => ?_
    rw [Bool.eq_iff_iff, Bool.not_eq_true', Bool.eq_false_iff, Ne, Registry.contains_iff]
    exact decide_eq_true_iff.symm
  rw [BuiltinColumns.types, List.filter_map, ← hshown, Registry.types, unsortedColumns,
    List.map_append, List.map_map, List.map_map]
  rfl

/-- No type is listed twice. -/
theorem nodup_unsorted_columns (hbuiltins : session.builtins.types.Nodup)
    (hregistered : session.registry.types.Nodup) :
    (session.unsortedColumns.map (·.type)).Nodup := by
  rw [types_unsorted_columns]
  refine List.nodup_append.2 ⟨hbuiltins.filter _, hregistered, ?_⟩
  rintro type hmem other hother rfl
  exact of_decide_eq_true (List.mem_filter.1 hmem).2 hother

/-- The built-in columns are listed in their order, then the custom ones in theirs. -/
theorem unsorted_columns_pairwise (session : Session σ) :
    session.unsortedColumns.Pairwise session.Precedes := by
  have hself : ∀ types : List String,
      types.Pairwise fun first second => [first, second].Sublist types :=
    fun types => List.pairwise_iff_forall_sublist.2 id
  refine List.pairwise_append.2 ⟨?_, ?_, ?_⟩
  · have hbuiltins := List.pairwise_map.1 (hself (session.builtins.columns.map (·.type)))
    exact List.pairwise_map.2 (hbuiltins.filter _)
  · have hcustom := List.pairwise_map.1 (hself (session.registry.columns.map (·.type)))
    exact List.pairwise_map.2 hcustom
  · intro first hfirst second hsecond
    obtain ⟨builtin, -, rfl⟩ := List.mem_map.1 hfirst
    obtain ⟨custom, -, rfl⟩ := List.mem_map.1 hsecond
    trivial

/-- A column is listed as custom exactly if its type is registered, and with the label that it is
found with. -/
theorem mem_unsorted_columns {column : AvailableColumn} (hbuiltins : session.builtins.types.Nodup)
    (hregistered : session.registry.types.Nodup) (h : column ∈ session.unsortedColumns) :
    (column.isCustom = true ↔ column.type ∈ session.registry.types) ∧
      some column.label =
        if column.isCustom then (session.registry.lookup column.type).map (·.label)
        else (session.builtins.get? column.type).map (·.label) := by
  rcases List.mem_append.1 h with hmem | hmem
  · obtain ⟨builtin, hbuiltin, rfl⟩ := List.mem_map.1 hmem
    obtain ⟨hbuiltin, hshown⟩ := List.mem_filter.1 hbuiltin
    have hget : session.builtins.get? builtin.type = some builtin :=
      Registry.find_of_nodup hbuiltins hbuiltin
    rw [Bool.not_eq_true', Bool.eq_false_iff, Ne, Registry.contains_iff] at hshown
    simp [hget, hshown]
  · obtain ⟨custom, hcustom, rfl⟩ := List.mem_map.1 hmem
    have hlookup := Registry.lookup_of_mem hregistered hcustom
    exact ⟨iff_of_true rfl (List.mem_map_of_mem hcustom), by simp [hlookup]⟩

/-- The columns to choose from are those that can be used, each of them once. -/
structure ListsUsable [Store σ] (session : Session σ) : Prop where
  types_nodup : (session.availableColumns.map (·.type)).Nodup
  mem_types_iff : ∀ type, type ∈ session.availableColumns.map (·.type) ↔
    type ∈ session.builtins.types ∨ type ∈ session.registry.types
  /-- A custom column hides the built-in column of its type. -/
  is_custom_iff : ∀ column ∈ session.availableColumns,
    column.isCustom = true ↔ column.type ∈ session.registry.types
  label_eq : ∀ column ∈ session.availableColumns,
    some column.label =
      if column.isCustom then (session.registry.lookup column.type).map (·.label)
      else (session.builtins.get? column.type).map (·.label)
  ordered : session.availableColumns.Pairwise fun first second =>
    Text.lowercase first.label < Text.lowercase second.label ∨
      Text.lowercase first.label = Text.lowercase second.label ∧ session.Precedes first second
  toggled : ∀ type, (∃ outcome, session.toggleColumn type = .ok outcome) ↔
    type ∈ session.availableColumns.map (·.type)
  sorted : ∀ type, (∃ next, session.setSortColumn type = .ok next) ↔
    type ∈ session.availableColumns.map (·.type)

end Session

/-- In every session that a host program opens with the columns it registers, and that has gone
through any operations, the columns to choose from are those that can be used, if the types of the
built-in columns on offer are distinct. -/
theorem available_columns_usable {σ π : Type} [Store σ] [PreferenceStore π] (setup : Setup)
    (columns : List CustomColumn) (saved : π) (store : σ) (display : List DisplayEvent)
    (session : Session σ) (operations : List Operation)
    (hopen : { setup with registry := Registry.ofColumns columns }.openSaved? saved store display =
      .ok session)
    (hdistinct : (session.run operations).builtins.types.Nodup) :
    (session.run operations).ListsUsable := by
  have hregistered : (session.run operations).registry.types.Nodup :=
    nodup_registered hopen operations
  generalize session.run operations = session at hdistinct hregistered
  have hsorted := session.available_columns_stable
  have htypes := hsorted.perm.map (·.type)
  have hmem : ∀ type, type ∈ session.availableColumns.map (·.type) ↔
      type ∈ session.builtins.types ∨ type ∈ session.registry.types := by
    intro type
    rw [htypes.mem_iff, Session.types_unsorted_columns]
    by_cases hcustom : type ∈ session.registry.types <;> simp [hcustom]
  constructor
  case types_nodup =>
    exact htypes.nodup_iff.2 (Session.nodup_unsorted_columns hdistinct hregistered)
  case mem_types_iff => exact hmem
  case is_custom_iff =>
    exact fun column hcolumn =>
      (Session.mem_unsorted_columns hdistinct hregistered (hsorted.perm.mem_iff.1 hcolumn)).1
  case label_eq =>
    exact fun column hcolumn =>
      (Session.mem_unsorted_columns hdistinct hregistered (hsorted.perm.mem_iff.1 hcolumn)).2
  case ordered => exact hsorted.pairwise session.unsorted_columns_pairwise
  case toggled =>
    intro type
    rw [hmem, ← Session.knows_iff, Prod.exists]
    simp [Session.toggle_column_eq_ok_iff]
  case sorted =>
    intro type
    rw [hmem, ← Session.knows_iff]
    simp [Session.set_sort_column_eq_ok_iff]

/-- One custom column hides a built-in one, another one is removed and registered again, and both are
labelled like built-in columns. -/
theorem available_columns_usable_shadowed : ∃ session : Session Script,
    { ({ removals := ["answer"] } : Setup) with
      registry := Registry.ofColumns
        [{ type := "age", label := "Age", value := fun _ _ => "" },
          { type := "deck", label := "QUESTION", value := fun _ _ => "" }] }.openSaved?
      ({} : MemoryPreferences) ({} : Script) = .ok session ∧
    (session.run [.removeColumn "age", .removeColumn "cardDue",
      .registerColumn { type := "age", label := "card", value := fun _ _ => "" }]).ListsUsable :=
  ⟨_, rfl, available_columns_usable { removals := ["answer"] }
    [{ type := "age", label := "Age", value := fun _ _ => "" },
      { type := "deck", label := "QUESTION", value := fun _ _ => "" }]
    ({} : MemoryPreferences) ({} : Script) [] _ _ rfl (by decide)⟩

end CardBrowser
