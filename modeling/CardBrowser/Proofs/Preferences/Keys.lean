import Mathlib
import CardBrowser.Proofs.Preferences.Saved

/-!
# The keys of the preferences

No two of the four values have the same form if one flag is set and the other is not, so whoever
finds such values has looked for them under four different keys: `nodup_of_load`. Hence preferences
are always found again exactly if no two keys are the same, `saved_found_again`.
-/

namespace CardBrowser.Preferences

open CardBrowser.Json

variable {keys : PreferenceKeys} {values : Members}

/-- Where columns, a sort column, a flag that is set and one that is not are all found, no two of
them are found under the same key. -/
theorem nodup_of_load {types : List String} {type : String}
    (hcolumns : (load keys values).activeColumns = some types)
    (hsort : (load keys values).sortType = some type)
    (hbackwards : (load keys values).sortBackwards = true)
    (hunique : values.get? keys.uniqueNotes = some (.bool false)) : keys.names.Nodup := by
  obtain ⟨listed, hlisted, htexts⟩ := Option.bind_eq_some_iff.1 hcolumns
  obtain ⟨sorting, hsorting, htext⟩ := Option.bind_eq_some_iff.1 hsort
  obtain ⟨flag, hflag, hon⟩ := (Option.any_eq_true _ _).1 hbackwards
  obtain ⟨rfl, -⟩ := text_of_eq_some_iff.1 htext
  have harray : ∃ items, listed = .array items := by
    cases listed with
    | array items => exact ⟨items, rfl⟩
    | _ => cases htexts
  obtain ⟨items, rfl⟩ := harray
  -- Values that are not the same have not been found under the same key.
  refine List.Nodup.of_map values.get? ?_
  show [values.get? keys.activeColumns, values.get? keys.sortType, values.get? keys.sortBackwards,
    values.get? keys.uniqueNotes].Nodup
  rw [hlisted, hsorting, hflag, hunique]
  cases flag with
  | bool on =>
      obtain rfl : on = true := hon
      simp
  | integer n => simp
  | _ => cases hon

/-- Preferences whose four values have four different forms. -/
def fourForms : Preferences where
  activeColumns := some []
  sortType := some "noteFld"
  sortBackwards := true
  uniqueNotes := false

/-- Preferences are found again after they have been saved, whatever they are and whatever was
there, exactly if no two keys are the same; only those without columns or a sort column, or with an
empty one, need not be. If no two keys are the same, what was loaded is saved and loaded again
unchanged, however malformed it was. The values under other keys stay in any case. -/
theorem saved_found_again (keys : PreferenceKeys) :
    (keys.names.Nodup ↔
      ∀ (values : Members) (preferences : Preferences) (types : List String) (type : String),
        preferences.activeColumns = some types → preferences.sortType = some type → type ≠ "" →
          load keys (preferences.save keys values) = preferences) ∧
    (keys.names.Nodup → ∀ values,
      load keys ((load keys values).save keys values) = load keys values) ∧
    ∀ (values : Members) (preferences : Preferences) (key : String), key ∉ keys.names →
      (preferences.save keys values).get? key = values.get? key := by
  refine ⟨⟨?_, ?_⟩, load_save_load, fun values preferences key hkey =>
    get_save_of_not_mem hkey preferences values⟩
  · intro hkeys values preferences types type hcolumns hsort htype
    exact load_save hkeys hcolumns hsort htype values
  · intro hfound
    have hforms := hfound [] fourForms [] "noteFld" rfl rfl (by decide)
    refine nodup_of_load (congrArg activeColumns hforms) (congrArg sortType hforms)
      (congrArg sortBackwards hforms) (Members.get_set_self _ _ _)

/-- Values among which only one flag is well formed, in the form of a number. -/
def illFormed : Members :=
  [("advbrowse_activeCols", .string "deck"), ("sortBackwards", .integer 1),
   ("sortType", .integer 42), ("theme", .null)]

/-- The flag is found again, the two malformed values are dropped again, and the value of another
program stays. -/
theorem saved_found_again_ill_formed : ({} : PreferenceKeys).names.Nodup ∧
    load {} ((load {} illFormed).save {} illFormed) = { sortBackwards := true } ∧
    ((load {} illFormed).save {} illFormed).get? "theme" = some .null := by
  obtain ⟨hiff, hloaded, hothers⟩ := saved_found_again {}
  have hkeys : ({} : PreferenceKeys).names.Nodup := by decide
  refine ⟨hkeys, (hloaded hkeys illFormed).trans rfl, ?_⟩
  exact (hothers illFormed (load {} illFormed) "theme" (by decide)).trans rfl

end CardBrowser.Preferences
