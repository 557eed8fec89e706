import Mathlib
import CardBrowser.Column.SortKey

/-!
# The types of registered columns

What the operations of the registry do to the list of registered types. Asking a column for its
sort expression changes the column, but no type: `types_ask_sort` and `types_sort_key` are what lets
a search leave the columns on offer alone.
-/

namespace CardBrowser.Registry

variable {registry next : Registry} {column : CustomColumn} {type other : String}

/-- A column is registered exactly when its type is in the list. -/
theorem contains_iff : registry.contains type = true ↔ type ∈ registry.types := by
  simp [contains, types]

/-- A column that is found has the type that it is found by. -/
theorem type_of_lookup (h : registry.lookup type = some column) : column.type = type := by
  simpa using List.find?_some h

/-- A column that is found is registered. -/
theorem mem_of_lookup (h : registry.lookup type = some column) : type ∈ registry.types :=
  List.mem_map.2 ⟨column, List.mem_of_find?_eq_some h, type_of_lookup h⟩

/-- No column is found exactly when the type is not registered. -/
theorem lookup_eq_none_iff : registry.lookup type = none ↔ type ∉ registry.types := by
  simp [lookup, types]

/-- In a list without repeated types every item is found by its type. -/
theorem find_of_nodup {α : Type} {typeOf : α → String} {items : List α} {item : α}
    (h : (items.map typeOf).Nodup) (hmem : item ∈ items) :
    items.find? (typeOf · == typeOf item) = some item := by
  cases hfind : items.find? (typeOf · == typeOf item) with
  | none => simpa using List.find?_eq_none.1 hfind item hmem
  | some found =>
      have htype : typeOf found = typeOf item := by simpa using List.find?_some hfind
      rw [List.inj_on_of_nodup_map h (List.mem_of_find?_eq_some hfind) hmem htype]

/-- Where no type is repeated, every column is found by its type. -/
theorem lookup_of_mem (h : registry.types.Nodup) (hmem : column ∈ registry.columns) :
    registry.lookup column.type = some column :=
  find_of_nodup h hmem

/-- A type that is not registered need not be taken out. -/
theorem filter_eq_self (h : type ∉ registry.types) :
    registry.columns.filter (·.type != type) = registry.columns := by
  refine List.filter_eq_self.2 fun column hcolumn => bne_iff_ne.2 fun heq => ?_
  exact h (heq ▸ List.mem_map_of_mem hcolumn)

/-- Putting a column into a list adds its type at the end unless the list holds it already. -/
theorem types_put (columns : List CustomColumn) :
    (put column columns).map (·.type) =
      if column.type ∈ columns.map (·.type) then columns.map (·.type)
      else columns.map (·.type) ++ [column.type] := by
  induction columns with
  | nil => simp [put]
  | cons first rest ih =>
      by_cases hfirst : first.type = column.type
      · simp [put, hfirst]
      · have hne : ¬ column.type = first.type := fun h => hfirst h.symm
        simp only [put, hfirst, if_false, List.map_cons, ih, List.mem_cons, hne, false_or]
        split <;> rfl

/-- Asking a column for its sort expression keeps the registered types and their order. -/
theorem types_ask_sort : (registry.askSort type).2.types = registry.types := by
  unfold askSort
  cases hlookup : registry.lookup type with
  | none => rfl
  | some column =>
      have htype : column.askSort.2.type = type := by
        rw [← type_of_lookup hlookup]
        unfold CustomColumn.askSort
        split <;> rfl
      have hmem : column.askSort.2.type ∈ registry.columns.map (·.type) :=
        htype ▸ mem_of_lookup hlookup
      simp only [types, types_put, if_pos hmem]

/-- Finding the sort key of a column keeps the registered types and their order. -/
theorem types_sort_key : (registry.sortKey type).2.types = registry.types := by
  unfold sortKey
  cases registry.lookup type with
  | none => rfl
  | some column =>
      have htypes : (registry.askSort type).2.types = registry.types := types_ask_sort
      rcases hask : registry.askSort type with ⟨_ | _ | _, asked⟩ <;> simpa [hask] using htypes

/-- The sort key of a column is made of the next answer of its sort source. -/
theorem sort_key_eq {source : SortSource} {expression : String}
    (hcolumn : registry.lookup type = some column) (hsource : column.sort = some source)
    (hanswer : source.ask.1 = .ok expression) :
    (registry.sortKey type).1 = some (SortKey.ofExpression expression column.cached) := by
  have hask : column.askSort.1 = some (.ok expression) := by
    simp only [CustomColumn.askSort, hsource, hanswer]
  simp only [sortKey, askSort, hcolumn, hask]

/-- A column without a type is refused. -/
theorem ne_empty_of_register (h : registry.register column = .ok next) : column.type ≠ "" := by
  unfold register at h
  split at h
  · cases h
  · assumption

/-- A registration that succeeds adds the type and keeps the others. -/
theorem mem_register (h : registry.register column = .ok next) :
    other ∈ next.types ↔ other = column.type ∨ other ∈ registry.types := by
  unfold register at h
  split at h
  · cases h
  · cases h
    simp only [types, types_put]
    split
    · rename_i hmem
      exact ⟨Or.inr, fun hor => hor.elim (fun heq => heq ▸ hmem) id⟩
    · simp [or_comm]

/-- A removal that succeeds takes out the type and keeps the others. -/
theorem mem_unregister (h : registry.unregister type = .ok (column, next)) :
    other ∈ next.types ↔ other ∈ registry.types ∧ other ≠ type := by
  unfold unregister at h
  split at h
  · cases h
  · cases h
    simp only [types, List.mem_map, List.mem_filter, bne_iff_ne]
    constructor
    · intro h
      obtain ⟨column, ⟨hmem, hne⟩, rfl⟩ := h
      exact ⟨⟨column, hmem, rfl⟩, hne⟩
    · intro h
      obtain ⟨⟨column, hmem, rfl⟩, hne⟩ := h
      exact ⟨column, ⟨hmem, hne⟩, rfl⟩

/-- A removal succeeds exactly when the type is registered. -/
theorem unregister_ok_iff : (∃ removed, registry.unregister type = .ok removed) ↔
    type ∈ registry.types := by
  unfold unregister
  cases hlookup : registry.lookup type with
  | none => simpa using lookup_eq_none_iff.1 hlookup
  | some column => simpa using mem_of_lookup hlookup

/-- A registration succeeds exactly when the column has a type. -/
theorem register_ok_iff : (∃ next, registry.register column = .ok next) ↔ column.type ≠ "" := by
  unfold register
  split
  · rename_i hempty
    exact iff_of_false (fun ⟨_, h⟩ => nomatch h) (not_not.2 hempty)
  · rename_i hnamed
    exact iff_of_true ⟨_, rfl⟩ hnamed

/-- Sorting by labels keeps every item as often as it is there. -/
theorem perm_sort_by_label {α : Type} (label : α → String) (items : List α) :
    (sortByLabel label items).Perm items := by
  have hsort := (List.mergeSort_perm
    (items.map fun item => (Text.lowercase (label item), item))
    fun a b => decide (a.1 ≤ b.1)).map Prod.snd
  rw [List.map_map, Function.comp_def, List.map_id'] at hsort
  exact hsort

/-! ## Registries that a host program builds -/

/-- The registry after a host program has registered columns one after the other. A registration
that is refused changes nothing. -/
def ofColumns (columns : List CustomColumn) : Registry :=
  columns.foldl (fun registry column => (registry.register column).toOption.getD registry) {}

/-- No registration gives a column without a type. -/
theorem empty_not_mem_register (h : "" ∉ registry.types) :
    "" ∉ ((registry.register column).toOption.getD registry).types := by
  cases hregister : registry.register column with
  | error error => exact h
  | ok next =>
      intro hmem
      rcases (mem_register hregister).1 hmem with heq | hmem
      · exact ne_empty_of_register hregister heq.symm
      · exact h hmem

/-- A host program cannot register a column without a type. -/
theorem empty_not_mem_of_columns (columns : List CustomColumn) :
    "" ∉ (ofColumns columns).types := by
  have key : ∀ (columns : List CustomColumn) (registry : Registry), "" ∉ registry.types →
      "" ∉ (columns.foldl
        (fun registry column => (registry.register column).toOption.getD registry)
        registry).types := by
    intro columns
    induction columns with
    | nil => exact fun _ h => h
    | cons column columns ih => exact fun _ h => ih _ (empty_not_mem_register h)
  exact key columns {} (by simp [types])

/-- A host program registers the columns that have a type, and no others. -/
theorem mem_of_columns (columns : List CustomColumn) :
    other ∈ (ofColumns columns).types ↔ other ∈ columns.map (·.type) ∧ other ≠ "" := by
  have key : ∀ (columns : List CustomColumn) (registry : Registry),
      other ∈ (columns.foldl
        (fun registry column => (registry.register column).toOption.getD registry)
        registry).types ↔
          other ∈ registry.types ∨ (other ∈ columns.map (·.type) ∧ other ≠ "") := by
    intro columns
    induction columns with
    | nil => simp
    | cons column columns ih =>
        intro registry
        rw [List.foldl_cons, ih, List.map_cons, List.mem_cons]
        cases hregister : registry.register column with
        | error error =>
            have hempty : column.type = "" := by
              by_contra hne
              simp [register, hne] at hregister
            have hcolumn : other = column.type → ¬ other ≠ "" := by
              rintro rfl
              simpa using hempty
            show other ∈ registry.types ∨ _ ↔ _
            tauto
        | ok next =>
            have hcolumn : other = column.type → other ≠ "" := by
              rintro rfl
              exact ne_empty_of_register hregister
            show other ∈ next.types ∨ _ ↔ _
            rw [mem_register hregister]
            tauto
  exact (key columns {}).trans (by simp [types])

end CardBrowser.Registry
