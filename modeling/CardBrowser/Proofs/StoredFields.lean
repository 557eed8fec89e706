import Mathlib
import CardBrowser.Card

/-!
# Stored field values

The field values of a note are stored as one text with a separator between them. A stored text is
never lost on the way through the fields: `join_split`. The values are found again if the text tells
them apart, `split_join`, and it does unless one of them has a separator in it or the only one is
empty, which looks as if there were no values: `fields_found_again`.
-/

namespace CardBrowser.Note

variable {fields : List String} {field : String}

/-- A text is cut at every place where the character stands. -/
theorem not_mem_of_mem_split_on {c : Char} {text part : List Char} (h : part ∈ text.splitOn c) :
    c ∉ part := by
  induction text generalizing part with
  | nil =>
      rw [List.splitOn_nil, List.mem_singleton] at h
      rw [h]
      exact List.not_mem_nil
  | cons first text ih =>
      obtain ⟨next, parts, hparts⟩ := List.exists_cons_of_ne_nil (List.splitOn_ne_nil c text)
      rw [List.splitOn_cons_eq_if_modifyHead, hparts] at h
      have hnext : c ∉ next := ih (hparts ▸ List.mem_cons_self)
      have hlater : ∀ part ∈ parts, c ∉ part :=
        fun part hmem => ih (hparts ▸ List.mem_cons_of_mem next hmem)
      split at h
      · rcases List.mem_cons.1 h with rfl | hmem
        · exact List.not_mem_nil
        · rcases List.mem_cons.1 hmem with rfl | hmem
          · exact hnext
          · exact hlater part hmem
      · rename_i hfirst
        rcases List.mem_cons.1 h with rfl | hmem
        · rw [List.mem_cons, not_or]
          exact ⟨fun heq => hfirst (beq_iff_eq.2 heq.symm), hnext⟩
        · exact hlater part hmem

/-- The characters of the stored form stand between the separators. -/
theorem join_fields_eq (fields : List String) :
    (joinFields fields).toList = [separator].intercalate (fields.map String.toList) :=
  String.toList_ofList

/-- The field values of a text that is not empty are what stands between its separators. -/
theorem split_fields_eq {stored : String} (h : stored.toList ≠ []) :
    splitFields stored = (stored.toList.splitOn separator).map String.ofList :=
  if_neg h

/-- A stored text is what its field values are stored as. -/
theorem join_split (stored : String) : joinFields (splitFields stored) = stored := by
  rw [← String.toList_inj, join_fields_eq]
  by_cases h : stored.toList = []
  · have hnone : splitFields stored = [] := if_pos h
    rw [hnone, h]
    rfl
  · have hparts : (splitFields stored).map String.toList = stored.toList.splitOn separator := by
      rw [split_fields_eq h, List.map_map]
      exact List.map_id'' (fun _ => String.toList_ofList) _
    rw [hparts, List.intercalate_splitOn]

/-- No field value that is found has a separator in it. -/
theorem separator_not_mem_split {stored : String} (h : field ∈ splitFields stored) :
    separator ∉ field.toList := by
  by_cases hempty : stored.toList = []
  · have hnone : splitFields stored = [] := if_pos hempty
    rw [hnone] at h
    exact absurd h List.not_mem_nil
  · rw [split_fields_eq hempty] at h
    obtain ⟨part, hpart, rfl⟩ := List.mem_map.1 h
    rw [String.toList_ofList]
    exact not_mem_of_mem_split_on hpart

/-- A field value that is alone is stored as it is. -/
theorem join_singleton (field : String) : joinFields [field] = field := by
  rw [← String.toList_inj, join_fields_eq]
  exact List.intercalate_singleton

/-- Only no values, or a single empty one, are stored as the empty text. -/
theorem join_eq_empty_iff : (joinFields fields).toList = [] ↔ fields = [] ∨ fields = [""] := by
  rw [join_fields_eq]
  cases fields with
  | nil => simp
  | cons field others =>
      cases others with
      | nil => simp [List.intercalate_singleton]
      | cons next others => simp [List.intercalate_cons_cons]

/-- Field values without separators are found again, unless the only one is empty. -/
theorem split_join (hfields : ∀ field ∈ fields, separator ∉ field.toList) (hne : fields ≠ [""]) :
    splitFields (joinFields fields) = fields := by
  by_cases hnone : fields = []
  · subst hnone
    rfl
  · have hstored : (joinFields fields).toList ≠ [] :=
      fun hempty => (join_eq_empty_iff.1 hempty).elim hnone hne
    have hparts : ∀ part ∈ fields.map String.toList, separator ∉ part := by
      intro part hmem
      obtain ⟨field, hfield, rfl⟩ := List.mem_map.1 hmem
      exact hfields field hfield
    rw [split_fields_eq hstored, join_fields_eq,
      List.splitOn_intercalate separator hparts (by simpa using hnone), List.map_map]
    exact List.map_id'' (fun _ => String.ofList_toList) _

/-- Every stored text is what the field values found in it are stored as. Field values are found
again exactly if none of them has a separator in it and they are not a single empty value. -/
theorem fields_found_again :
    (∀ stored, joinFields (splitFields stored) = stored) ∧
    ∀ fields, splitFields (joinFields fields) = fields ↔
      (∀ field ∈ fields, separator ∉ field.toList) ∧ fields ≠ [""] := by
  refine ⟨join_split, fun fields => ⟨fun h => ⟨fun field hmem => ?_, ?_⟩, fun h => ?_⟩⟩
  · rw [← h] at hmem
    exact separator_not_mem_split hmem
  · rintro rfl
    rw [join_singleton] at h
    cases h
  · exact split_join h.1 h.2

/-- Empty values are told apart wherever they stand. -/
example : splitFields (joinFields ["", "b", "", ""]) = ["", "b", "", ""] := by
  decide

end CardBrowser.Note
