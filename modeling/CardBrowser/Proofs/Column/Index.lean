import Mathlib
import CardBrowser.Proofs.Column.Calls
import CardBrowser.Proofs.Column.Sorted

/-!
# A registry in two parts is an ordered map

`IndexedRegistry.Represents` relates a registry in two parts to a registry that is one list. Every
call gives the same answer on both and keeps them related (`Represents.next`), so the two parts
never drift apart: `run_represents`. What is known of the list is then known of the two parts, and
`run_is_ordered_map` says it in terms of the calls that have been made.
-/

namespace CardBrowser

/-! ## Columns by their types -/

namespace ColumnMap

variable {map : ColumnMap} {type other : String} {column : CustomColumn}

/-- What is found after a column has been taken away. -/
theorem get_erase : (map.erase type).get? other = if type = other then none else map.get? other := by
  show (map.entries.filter (·.1 != type)).lookup other = _
  unfold get?
  induction map.entries with
  | nil => simp
  | cons entry entries ih =>
      obtain ⟨key, column⟩ := entry
      by_cases hkey : key = type
      · subst hkey
        rw [List.filter_cons_of_neg (by simp), ih]
        by_cases hother : key = other
        · simp [hother]
        · rw [if_neg hother, if_neg hother, List.lookup_cons,
            beq_eq_false_iff_ne.2 (Ne.symm hother)]
      · rw [List.filter_cons_of_pos (by simpa using hkey), List.lookup_cons, List.lookup_cons, ih]
        by_cases hother : other = key
        · simp [hother, Ne.symm hkey]
        · simp [beq_eq_false_iff_ne.2 hother]

/-- What is found after a column has been written. -/
theorem get_insert :
    (map.insert type column).get? other = if type = other then some column else map.get? other := by
  show ((type, column) :: (map.erase type).entries).lookup other = _
  rw [List.lookup_cons]
  by_cases hother : type = other
  · simp [hother]
  · rw [beq_eq_false_iff_ne.2 (Ne.symm hother), if_neg hother]
    exact get_erase.trans (if_neg hother)

/-- There is nothing to take away where no column is found. -/
theorem erase_eq_self (h : map.get? type = none) : map.erase type = map := by
  refine ColumnMap.ext (List.filter_eq_self.2 fun entry hentry => bne_iff_ne.2 ?_)
  exact Ne.symm (bne_iff_ne.1 (List.lookup_eq_none_iff.1 h entry hentry))

/-- A column is found by a type exactly if one is written under it. -/
theorem mem_keys_iff : type ∈ map.entries.map Prod.fst ↔ ∃ column, map.get? type = some column := by
  rw [← Option.isSome_iff_exists, get?, List.lookup_isSome_iff]
  simp

end ColumnMap

/-! ## Registries without a repeated type -/

namespace Registry

variable {registry : Registry} {column : CustomColumn}

/-- Looking up the types one after the other gives the columns. -/
theorem filter_map_lookup (h : registry.types.Nodup) :
    registry.types.filterMap registry.lookup = registry.columns := by
  rw [types, List.filterMap_map]
  exact (List.filterMap_congr fun column hcolumn => lookup_of_mem h hcolumn).trans
    List.filterMap_some

/-- A column that is put into a list stands in the place of the one with its type. -/
theorem put_eq_map {columns : List CustomColumn} (h : (columns.map (·.type)).Nodup)
    (hmem : column.type ∈ columns.map (·.type)) :
    put column columns = columns.map fun old => if old.type = column.type then column else old := by
  induction columns with
  | nil => cases hmem
  | cons first rest ih =>
      obtain ⟨hfirst, hrest⟩ := List.nodup_cons.1 h
      unfold put
      rw [List.map_cons]
      split
      · rename_i heq
        have hsame : ∀ old ∈ rest, (if old.type = column.type then column else old) = old := by
          intro old hold
          refine if_neg fun (hsame : old.type = column.type) => hfirst ?_
          exact List.mem_map.2 ⟨old, hold, hsame.trans heq.symm⟩
        rw [List.map_congr_left hsame, List.map_id']
      · rename_i hne
        rw [ih hrest ((List.mem_cons.1 hmem).resolve_left (Ne.symm hne))]

end Registry

/-! ## The two parts after a call -/

namespace IndexedRegistry

variable {indexed : IndexedRegistry} {registry : Registry} {calls : List Registry.Call}
  {column : CustomColumn} {type other : String}

/-- Only a column without a type is refused. -/
theorem register_answer :
    (indexed.register column).1 =
      if column.type = "" then .error (.invalidIdentifier column.type) else .ok column := by
  unfold register
  split
  · rfl
  · dsimp only
    split <;> rfl

/-- The types after a registration. -/
theorem order_register :
    (indexed.register column).2.order =
      if column.type = "" ∨ (indexed.lookup column.type).isSome then indexed.order
      else indexed.order ++ [column.type] := by
  unfold register
  by_cases hempty : column.type = ""
  · rw [if_pos hempty, if_pos (Or.inl hempty)]
  · rw [if_neg hempty]
    simp only [hempty, false_or]
    show (if (indexed.lookup column.type).isSome then _ else _ : _ × IndexedRegistry).2.order = _
    split <;> rfl

/-- What is found after a registration. -/
theorem lookup_register :
    (indexed.register column).2.lookup other =
      if column.type = other ∧ other ≠ "" then some column else indexed.lookup other := by
  unfold register
  by_cases hempty : column.type = ""
  · rw [if_pos hempty, if_neg fun h => h.2 (h.1 ▸ hempty)]
  · have hfound : (indexed.byType.insert column.type column).get? other =
        if column.type = other ∧ other ≠ "" then some column else indexed.lookup other :=
      ColumnMap.get_insert.trans
        (if_congr (and_iff_left_of_imp fun h => h ▸ hempty).symm rfl rfl)
    rw [if_neg hempty]
    dsimp only
    split <;> exact hfound

/-- A removal of what is not there changes nothing. -/
theorem unregister_eq_of_none (h : indexed.lookup type = none) :
    indexed.unregister type = (.error (.notFound type), indexed) := by
  have hget : indexed.byType.get? type = none := h
  simp only [unregister, hget, ColumnMap.erase_eq_self hget]

/-- A removal takes the column out of the one part and its type out of the other. -/
theorem unregister_eq_of_some (h : indexed.lookup type = some column) :
    indexed.unregister type =
      (.ok column, ⟨indexed.byType.erase type, indexed.order.filter (· != type)⟩) := by
  have hget : indexed.byType.get? type = some column := h
  simp only [unregister, hget]

/-! ## Two parts and one list -/

/-- The two parts hold what the list holds. -/
structure Represents (indexed : IndexedRegistry) (registry : Registry) : Prop where
  order_eq : indexed.order = registry.types
  lookup_eq : ∀ type, indexed.lookup type = registry.lookup type

/-- A type is found in the one part exactly if it stands in the other. -/
theorem Represents.mem_order_iff (h : indexed.Represents registry) :
    type ∈ indexed.order ↔ (indexed.lookup type).isSome := by
  rw [h.order_eq, h.lookup_eq, Option.isSome_iff_ne_none, ne_eq, Registry.lookup_eq_none_iff,
    not_not]

/-- Both sides stay related. -/
theorem Represents.next (h : indexed.Represents registry) (call : Registry.Call) :
    (indexed.call call).2.Represents (registry.step call) := by
  cases call with
  | register column =>
      constructor
      · show (indexed.register column).2.order = _
        rw [order_register, Registry.types_step_register, ← h.order_eq]
        exact if_congr (or_congr_right h.mem_order_iff.symm) rfl rfl
      · intro type
        show (indexed.register column).2.lookup type = _
        rw [lookup_register, Registry.lookup_step_register, h.lookup_eq]
  | unregister type =>
      constructor
      · show (indexed.unregister type).2.order = _
        rw [Registry.types_step_unregister, ← h.order_eq]
        cases hlookup : indexed.lookup type with
        | some column => rw [unregister_eq_of_some hlookup]
        | none =>
            have hnot : type ∉ indexed.order := by simp [h.mem_order_iff, hlookup]
            rw [unregister_eq_of_none hlookup]
            refine (List.filter_eq_self.2 fun other hother => bne_iff_ne.2 ?_).symm
            exact fun heq => hnot (heq ▸ hother)
      · intro other
        show (indexed.unregister type).2.lookup other = _
        rw [Registry.lookup_step_unregister, ← h.lookup_eq]
        cases hlookup : indexed.lookup type with
        | some column =>
            rw [unregister_eq_of_some hlookup]
            exact ColumnMap.get_erase
        | none =>
            rw [unregister_eq_of_none hlookup]
            split
            · rename_i heq
              exact heq ▸ hlookup
            · rfl

/-- A call gives the same answer on both sides. -/
theorem Represents.answer_eq (h : indexed.Represents registry) (call : Registry.Call) :
    (indexed.call call).1 = (registry.answer call).map Prod.fst := by
  cases call with
  | register column =>
      show (indexed.register column).1 = ((registry.register column).map (column, ·)).map Prod.fst
      rw [register_answer, Registry.register]
      split <;> rfl
  | unregister type =>
      show (indexed.unregister type).1 = (registry.unregister type).map Prod.fst
      rw [Registry.unregister, ← h.lookup_eq]
      cases hlookup : indexed.lookup type with
      | some column => rw [unregister_eq_of_some hlookup]; rfl
      | none => rw [unregister_eq_of_none hlookup]; rfl

/-- The two parts hold what the list holds after any calls. -/
theorem run_represents (calls : List Registry.Call) :
    (run {} calls).Represents (Registry.run {} calls) := by
  induction calls using List.reverseRecOn with
  | nil => exact ⟨rfl, fun _ => rfl⟩
  | append_singleton calls call ih =>
      rw [Registry.run_append]
      simpa [run] using ih.next call

/-- Going through the order and looking every type up gives the list. -/
theorem Represents.columns_eq (h : indexed.Represents registry) (hnodup : registry.types.Nodup) :
    indexed.columns = registry.columns := by
  rw [← Registry.filter_map_lookup hnodup, columns, h.order_eq]
  exact List.filterMap_congr fun type _ => h.lookup_eq type

/-- As many columns are found by their types as are listed. -/
theorem Represents.length_columns (h : indexed.Represents registry)
    (hnodup : registry.types.Nodup) : indexed.columns.length = indexed.size := by
  have hkeys : (indexed.byType.entries.map Prod.fst).Perm registry.types := by
    refine (List.perm_ext_iff_of_nodup indexed.byType.distinct hnodup).2 fun type => ?_
    rw [← h.order_eq, h.mem_order_iff, ColumnMap.mem_keys_iff, ← Option.isSome_iff_exists]
    rfl
  have hlength := hkeys.length_eq
  rw [List.length_map, Registry.types, List.length_map] at hlength
  rw [h.columns_eq hnodup]
  exact hlength.symm

/-- A call that fails changes nothing. -/
theorem call_eq_of_error {call : Registry.Call} {error : RegistryError}
    (h : (indexed.call call).1 = .error error) :
    (indexed.call call).2 = indexed := by
  cases call with
  | register column =>
      change (indexed.register column).1 = .error error at h
      show (indexed.register column).2 = indexed
      by_cases hempty : column.type = ""
      · rw [register, if_pos hempty]
      · rw [register_answer, if_neg hempty] at h
        cases h
  | unregister type =>
      change (indexed.unregister type).1 = .error error at h
      show (indexed.unregister type).2 = indexed
      cases hlookup : indexed.lookup type with
      | none => rw [unregister_eq_of_none hlookup]
      | some column =>
          rw [unregister_eq_of_some hlookup] at h
          cases h

/-- A registry is an ordered map after the calls that have been made. -/
structure IsOrderedMap (indexed : IndexedRegistry) (calls : List Registry.Call) : Prop where
  /-- The types that are listed are those that a column is found by, and none is listed twice. -/
  order_nodup : indexed.order.Nodup
  mem_order_iff : ∀ type, type ∈ indexed.order ↔ ∃ column, indexed.lookup type = some column
  empty_not_mem : "" ∉ indexed.order
  /-- Every type that is listed gives a column, so there are as many columns as the size says. -/
  types_columns : indexed.columns.map (·.type) = indexed.order
  length_columns : indexed.columns.length = indexed.size
  /-- A type is listed from its first registration since its last removal, and in that order. -/
  mem_order_iff_registered : ∀ type,
    type ∈ indexed.order ↔ ∃ n, Registry.FirstRegisteredAt type calls n
  order_pairwise : indexed.order.Pairwise (Registry.RegisteredBefore calls)
  lookup_eq_some_iff : ∀ type column,
    indexed.lookup type = some column ↔ column.type = type ∧ Registry.IsLatest column calls
  /-- A column that replaces another one stands in its place. -/
  replaced : ∀ column, column.type ∈ indexed.order →
    (indexed.register column).1 = .ok column ∧
      (indexed.register column).2.columns =
        indexed.columns.map fun old => if old.type = column.type then column else old
  failed : ∀ call error, (indexed.call call).1 = .error error → (indexed.call call).2 = indexed
  sorted : IsStableSort (fun column => Text.lowercase column.label) indexed.columns
    indexed.sortedByLabel

/-- After any calls the two parts are an ordered map, and they are the registry in one list. -/
theorem run_is_ordered_map (calls : List Registry.Call) :
    (run {} calls).IsOrderedMap calls ∧
      (run {} calls).columns = (Registry.run {} calls).columns ∧
      ∀ type, (run {} calls).lookup type = (Registry.run {} calls).lookup type := by
  have h : (run {} calls).Represents (Registry.run {} calls) := run_represents calls
  obtain ⟨hnodup, hempty⟩ := Registry.types_run_well_formed calls
  have hcolumns := h.columns_eq hnodup
  refine ⟨?_, hcolumns, h.lookup_eq⟩
  constructor
  case order_nodup => exact h.order_eq ▸ hnodup
  case mem_order_iff =>
    intro type
    rw [h.mem_order_iff, Option.isSome_iff_exists]
  case empty_not_mem => exact h.order_eq ▸ hempty
  case types_columns => rw [hcolumns, h.order_eq, Registry.types]
  case length_columns => exact h.length_columns hnodup
  case mem_order_iff_registered =>
    intro type
    rw [h.order_eq, Registry.mem_types_run_iff, Registry.exists_first_registered_at]
  case order_pairwise => exact h.order_eq ▸ Registry.types_run_pairwise calls
  case lookup_eq_some_iff =>
    intro type column
    rw [h.lookup_eq, Registry.lookup_run_eq_some_iff]
  case replaced =>
    intro column hmem
    rw [h.order_eq] at hmem
    have hnamed : column.type ≠ "" := fun heq => hempty (heq ▸ hmem)
    have hnext := (h.next (.register column)).columns_eq (Registry.nodup_types_step hnodup)
    refine ⟨register_answer.trans (if_neg hnamed), hnext.trans ?_⟩
    rw [Registry.step_register, if_neg hnamed, hcolumns]
    exact Registry.put_eq_map hnodup hmem
  case failed => exact fun call error hfailed => call_eq_of_error hfailed
  case sorted => exact Registry.sort_by_label_stable CustomColumn.label _

end IndexedRegistry

end CardBrowser
