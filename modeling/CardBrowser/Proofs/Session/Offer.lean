import Mathlib
import CardBrowser.Column.Index
import CardBrowser.Proofs.Column.Registry
import CardBrowser.Session.Offer

/-!
# What is on offer after a column is hidden

`Offer.hide` takes a column out of the registry and out of the built-in columns. It fails exactly
where the column is in neither, and it does not touch columns of other types.
-/

namespace CardBrowser

namespace BuiltinColumns

variable {builtins rest : BuiltinColumns} {column : BuiltinColumn} {type other : String}

/-- There is a column of a type exactly when the type is in the list. -/
theorem contains_iff : builtins.contains type = true ↔ type ∈ builtins.types := by
  simp [contains, types]

/-- A column that is taken out was there, and the columns of other types stay. -/
theorem mem_remove (h : builtins.remove type = some (column, rest)) :
    column.type = type ∧ column ∈ builtins.columns ∧
      (other ≠ type → (other ∈ rest.types ↔ other ∈ builtins.types)) := by
  unfold remove at h
  obtain ⟨found, hfound, heq⟩ := Option.map_eq_some_iff.1 h
  cases heq
  refine ⟨by simpa using List.find?_some hfound, List.mem_of_find?_eq_some hfound, fun hne => ?_⟩
  simp only [types, List.mem_map]
  constructor
  · intro h
    obtain ⟨column, hmem, rfl⟩ := h
    exact ⟨column, List.mem_of_mem_eraseP hmem, rfl⟩
  · intro h
    obtain ⟨column, hmem, rfl⟩ := h
    exact ⟨column, (List.mem_eraseP_of_neg (by simpa using hne)).2 hmem, rfl⟩

/-- Taking out a column adds none. -/
theorem mem_of_mem_remove (h : builtins.remove type = some (column, rest))
    (hmem : other ∈ rest.types) : other ∈ builtins.types := by
  unfold remove at h
  obtain ⟨found, hfound, heq⟩ := Option.map_eq_some_iff.1 h
  cases heq
  obtain ⟨removed, hremoved, rfl⟩ := List.mem_map.1 hmem
  exact List.mem_map.2 ⟨removed, List.mem_of_mem_eraseP hremoved, rfl⟩

/-- No column can be taken out exactly when there is none of the type. -/
theorem remove_eq_none_iff : builtins.remove type = none ↔ type ∉ builtins.types := by
  simp [remove, get?, types]

/-- Putting columns back adds their types and takes none away. -/
theorem mem_restore (builtins : BuiltinColumns) (removed : List BuiltinColumn) :
    other ∈ (builtins.restore removed).types ↔
      other ∈ builtins.types ∨ other ∈ removed.map (·.type) := by
  induction removed generalizing builtins with
  | nil => simp [restore]
  | cons column removed ih =>
      have hrest := ih (if builtins.contains column.type then builtins
        else ⟨builtins.columns ++ [column]⟩)
      rw [List.map_cons, List.mem_cons]
      refine hrest.trans ?_
      by_cases hcontains : builtins.contains column.type = true
      · rw [if_pos hcontains]
        have hmem : other = column.type → other ∈ builtins.types := by
          rintro rfl
          exact contains_iff.1 hcontains
        tauto
      · rw [if_neg hcontains]
        simp only [types, List.map_append, List.mem_append, List.map_cons, List.map_nil,
          List.mem_singleton]
        tauto

end BuiltinColumns

namespace Offer

variable {offer next : Offer} {type other : String}

/-- A column is known exactly when it is built in or registered. -/
theorem knows_iff :
    offer.knows type = true ↔ type ∈ offer.builtins.types ∨ type ∈ offer.registry.types := by
  rw [knows, Bool.or_eq_true, BuiltinColumns.contains_iff, Registry.contains_iff]

/-- What is on offer after a column was hidden, for each of the three lists. -/
theorem hide_eq_some (h : offer.hide type = some next) :
    next.registry =
        ((offer.registry.unregister type).toOption.map Prod.snd).getD offer.registry ∧
      next.builtins = ((offer.builtins.remove type).map Prod.snd).getD offer.builtins ∧
      next.removed = offer.removed ++ ((offer.builtins.remove type).map Prod.fst).toList := by
  dsimp only [hide] at h
  split at h
  · cases h
  · cases h
    exact ⟨rfl, rfl, rfl⟩

/-- Hiding a column takes its type out of the registry. -/
theorem registry_of_hide (h : offer.hide type = some next) :
    next.registry = offer.registry.step (.unregister type) :=
  (hide_eq_some h).1

/-- Hiding a column leaves the registered columns of other types alone and registers none. -/
theorem mem_registry_of_hide (h : offer.hide type = some next) :
    (other ∈ next.registry.types → other ∈ offer.registry.types) ∧
      (other ≠ type → other ∈ offer.registry.types → other ∈ next.registry.types) := by
  rw [(hide_eq_some h).1]
  cases hunregister : offer.registry.unregister type with
  | error error => exact ⟨id, fun _ => id⟩
  | ok removed =>
      exact ⟨fun hmem => ((Registry.mem_unregister hunregister).1 hmem).1,
        fun hne hmem => (Registry.mem_unregister hunregister).2 ⟨hmem, hne⟩⟩

/-- Hiding a column leaves the built-in columns of other types alone and adds none. -/
theorem mem_builtins_of_hide (h : offer.hide type = some next) :
    (other ∈ next.builtins.types → other ∈ offer.builtins.types) ∧
      (other ≠ type → other ∈ offer.builtins.types → other ∈ next.builtins.types) := by
  rw [(hide_eq_some h).2.1]
  cases hremove : offer.builtins.remove type with
  | none => exact ⟨id, fun _ => id⟩
  | some removed =>
      exact ⟨BuiltinColumns.mem_of_mem_remove hremove,
        fun hne => ((BuiltinColumns.mem_remove hremove).2.2 hne).2⟩

/-- Columns of other types stay known when a column is hidden. -/
theorem knows_of_hide (h : offer.hide type = some next) (hne : other ≠ type)
    (hknows : offer.knows other = true) : next.knows other = true := by
  rw [knows_iff] at hknows ⊢
  exact hknows.imp ((mem_builtins_of_hide h).2 hne) ((mem_registry_of_hide h).2 hne)

/-- A column can be hidden exactly when it is known. -/
theorem hide_eq_none_iff : offer.hide type = none ↔ offer.knows type = false := by
  have hregistry : ((offer.registry.unregister type).toOption.map Prod.snd).isNone = true ↔
      type ∉ offer.registry.types := by
    rw [← Registry.unregister_ok_iff]
    cases offer.registry.unregister type <;> simp [Except.toOption]
  have hbuiltins : (offer.builtins.remove type).isNone = true ↔ type ∉ offer.builtins.types := by
    rw [Option.isNone_iff_eq_none, BuiltinColumns.remove_eq_none_iff]
  rw [← Bool.not_eq_true, knows_iff, not_or, ← hregistry, ← hbuiltins]
  dsimp only [hide]
  split <;> rename_i h <;> simpa [and_comm] using h

/-! ## Hiding a list of columns -/

/-- Hiding a list of columns adds neither built-in nor registered columns. -/
theorem mem_of_hide_all (isProtected : String) (types : List String) (offer : Offer) :
    (other ∈ (hideAll isProtected types offer).registry.types →
      other ∈ offer.registry.types) ∧
    (other ∈ (hideAll isProtected types offer).builtins.types →
      other ∈ offer.builtins.types) := by
  induction types generalizing offer with
  | nil => exact ⟨id, id⟩
  | cons type types ih =>
      have hrest := ih (if type = isProtected then offer else (offer.hide type).getD offer)
      split at hrest
      · rename_i hprotected
        simpa [hideAll, hprotected] using hrest
      · rename_i hother
        cases hhide : offer.hide type with
        | none => simpa [hideAll, hother, hhide] using hrest
        | some next =>
            simp only [hhide, Option.getD_some] at hrest
            simp only [hideAll, List.foldl_cons, hother, if_false, hhide, Option.getD_some]
            exact ⟨fun hmem => (mem_registry_of_hide hhide).1 (hrest.1 hmem),
              fun hmem => (mem_builtins_of_hide hhide).1 (hrest.2 hmem)⟩

end Offer

end CardBrowser
