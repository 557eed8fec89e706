import Mathlib
import CardBrowser.Preferences.File

/-!
# Saved preferences

What is found under four different keys after a save is what was saved and, where there was nothing
to save, what was there before: `load_save_eq`. So preferences are found again as they were saved,
`load_save`, and as they were loaded, `load_save_load`. The values of other programs stay,
`get_save_of_not_mem`. `LawfulPreferences` says what is needed of the place where the values are
kept.
-/

namespace CardBrowser

open CardBrowser.Json

/-! ## Members -/

namespace Json.Members

variable {name other : String} {value : Value}

/-- A member that was set has its new value. -/
theorem get_set_self (name : String) (value : Value) (members : Members) :
    (members.set name value).get? name = some value := by
  induction members with
  | nil => simp [set, get?]
  | cons member members ih =>
      obtain ⟨key, old⟩ := member
      unfold set
      by_cases hlt : name < key
      · simp [hlt, get?]
      · by_cases hkey : key = name
        · simp [hkey, get?]
        · simp [hlt, hkey, get?, ih]

/-- Setting a member leaves the others as they are. -/
theorem get_set_of_ne (h : other ≠ name) (value : Value) (members : Members) :
    (members.set name value).get? other = members.get? other := by
  induction members with
  | nil => simp [set, get?, h.symm]
  | cons member members ih =>
      obtain ⟨key, old⟩ := member
      unfold set
      by_cases hlt : name < key
      · simp [hlt, get?, h.symm]
      · by_cases hkey : key = name
        · subst hkey
          simp [get?, h.symm]
        · simp only [hlt, hkey, if_false, get?, ih]

end Json.Members

/-! ## Loading and saving -/

/-- The keys in the order in which the preferences are saved. -/
def PreferenceKeys.names (keys : PreferenceKeys) : List String :=
  [keys.activeColumns, keys.sortType, keys.sortBackwards, keys.uniqueNotes]

namespace Preferences

variable {preferences : Preferences} {keys : PreferenceKeys} {key : String}

/-- A value is set under its own key only. -/
theorem get_set_some_of_ne {name : String} (h : key ≠ name) (value : Option Json.Value)
    (values : Members) : (setSome name value values).get? key = values.get? key := by
  cases value with
  | none => rfl
  | some value => exact Members.get_set_of_ne h value values

/-- A value that is set takes the place of the earlier one, which stays if there is none to set. -/
theorem get_set_some_self (name : String) (value : Option Json.Value) (values : Members) :
    (setSome name value values).get? name = value.or (values.get? name) := by
  cases value with
  | none => rfl
  | some value => exact Members.get_set_self name value values

/-- Saving leaves the values under other keys as they are. -/
theorem get_save_of_not_mem (h : key ∉ keys.names) (preferences : Preferences) (values : Members) :
    (preferences.save keys values).get? key = values.get? key := by
  simp only [PreferenceKeys.names, List.mem_cons, List.not_mem_nil, or_false, not_or] at h
  obtain ⟨hactive, hsort, hbackwards, hunique⟩ := h
  unfold save
  rw [Members.get_set_of_ne hunique, Members.get_set_of_ne hbackwards, get_set_some_of_ne hsort,
    get_set_some_of_ne hactive]

/-- All items of a list of texts are texts. -/
theorem texts_of_strings (types : List String) :
    textsOf? (.array (types.map .string)) = some types := by
  unfold textsOf?
  simp [List.filterMap_map]

/-- A text that is found is not empty. -/
theorem text_of_eq_some_iff {value : Json.Value} {text : String} :
    textOf? value = some text ↔ value = .string text ∧ text ≠ "" := by
  unfold textOf?
  split
  · rename_i found
    split
    · rename_i hfound
      subst hfound
      simp only [reduceCtorEq, Value.string.injEq, false_iff, not_and, not_not]
      exact Eq.symm
    · rename_i hfound
      simp only [Option.some.injEq, Value.string.injEq]
      constructor
      · rintro rfl
        exact ⟨rfl, hfound⟩
      · exact And.left
  · rename_i hvalue
    simp only [reduceCtorEq, false_iff, not_and]
    exact fun h => absurd h (hvalue text)

/-- What is loaded after a save if no two keys are the same: the flags that were saved, and the
columns and the sort column too, if there were any. Otherwise the earlier ones are found again. -/
theorem load_save_eq (hkeys : keys.names.Nodup) (preferences : Preferences) (values : Members) :
    load keys (preferences.save keys values) = { preferences with
      activeColumns := preferences.activeColumns.or (load keys values).activeColumns
      sortType :=
        ((preferences.sortType.map .string).or (values.get? keys.sortType)).bind textOf? } := by
  simp only [PreferenceKeys.names, List.nodup_cons, List.mem_cons, List.not_mem_nil, or_false,
    not_or] at hkeys
  obtain ⟨⟨hactiveSort, hactiveBackwards, hactiveUnique⟩, ⟨hsortBackwards, hsortUnique⟩,
    hbackwardsUnique, -⟩ := hkeys
  unfold load save
  simp only [Members.get_set_self, Members.get_set_of_ne hbackwardsUnique,
    Members.get_set_of_ne hsortUnique, Members.get_set_of_ne hsortBackwards,
    Members.get_set_of_ne hactiveUnique, Members.get_set_of_ne hactiveBackwards,
    get_set_some_of_ne hactiveSort, get_set_some_of_ne (Ne.symm hactiveSort), get_set_some_self,
    Option.any_some, isOn]
  cases preferences.activeColumns with
  | none => rfl
  | some types => simp only [Option.map_some, Option.some_or, Option.bind_some, texts_of_strings]

/-- Preferences that say which columns are displayed and which one sorts are found again if no two
keys are the same. -/
theorem load_save {types : List String} {type : String} (hkeys : keys.names.Nodup)
    (hcolumns : preferences.activeColumns = some types) (hsort : preferences.sortType = some type)
    (htype : type ≠ "") (values : Members) :
    load keys (preferences.save keys values) = preferences := by
  have hfound : textOf? (.string type) = some type := text_of_eq_some_iff.2 ⟨rfl, htype⟩
  rw [load_save_eq hkeys, hcolumns, hsort, Option.map_some, Option.some_or, Option.some_or,
    Option.bind_some, hfound, ← hcolumns, ← hsort]

/-- Preferences that were loaded are loaded again after they have been saved, whatever was there. A
malformed value stays where nothing is saved in its place, and is dropped again. -/
theorem load_save_load (hkeys : keys.names.Nodup) (values : Members) :
    load keys ((load keys values).save keys values) = load keys values := by
  have hsort : (((load keys values).sortType.map Json.Value.string).or
      (values.get? keys.sortType)).bind textOf? = (load keys values).sortType := by
    cases hloaded : (load keys values).sortType with
    | none => exact hloaded
    | some type =>
        obtain ⟨value, -, hvalue⟩ := Option.bind_eq_some_iff.1 hloaded
        have htype := (text_of_eq_some_iff.1 hvalue).2
        exact text_of_eq_some_iff.2 ⟨rfl, htype⟩
  rw [load_save_eq hkeys, hsort, Option.or_self]

end Preferences

/-! ## Places where values are kept -/

/-- Values that have been set are there, and flushing them changes none. -/
class LawfulPreferences (π : Type) [PreferenceStore π] : Prop where
  values_with_values (values : Members) (store : π) :
    PreferenceStore.values (PreferenceStore.withValues values store) = values
  values_flush (store : π) :
    PreferenceStore.values (PreferenceStore.flush store).2 = PreferenceStore.values store

instance : LawfulPreferences MemoryPreferences where
  values_with_values _ _ := rfl
  values_flush _ := rfl

/-- A file keeps its values whether or not they can be written. -/
instance : LawfulPreferences PreferenceFile where
  values_with_values _ _ := rfl
  values_flush file := by
    show (PreferenceFile.flush file).2.values = file.values
    unfold PreferenceFile.flush
    cases file.content <;> rfl

end CardBrowser
