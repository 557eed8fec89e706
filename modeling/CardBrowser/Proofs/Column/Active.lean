import Mathlib
import CardBrowser.Column.Active

/-!
# Membership in the displayed columns

What `push`, `remove` and `toggle` do to the displayed columns, said as membership. Read
`ActiveColumns.WellFormed` first: it holds of every set that these operations build from the empty
one, and each operation keeps it.
-/

namespace CardBrowser.ActiveColumns

variable {active : ActiveColumns} {type other : String}

/-- A column is displayed exactly when its type is in the list. -/
theorem contains_iff : active.contains type = true ↔ type ∈ active.types := by
  simp [contains]

/-- The set is empty exactly when its list is. -/
theorem is_empty_iff : active.isEmpty = true ↔ active.types = [] := by
  simp [isEmpty]

/-- `push` adds the type that it is given, unless that is empty, and nothing else. -/
theorem mem_push :
    other ∈ (active.push type).types ↔ other ∈ active.types ∨ (other = type ∧ type ≠ "") := by
  unfold push
  split
  · rename_i h
    have hne : type ≠ "" := by
      simp only [accepts, Bool.and_eq_true, bne_iff_ne] at h
      exact h.1
    simp [hne]
  · rename_i h
    constructor
    · exact Or.inl
    · intro h
      rcases h with hmem | ⟨rfl, hne⟩
      · exact hmem
      · by_contra hmem
        simp [accepts, contains, hne, hmem] at h

/-- `push` puts a type that is not empty at the end, unless it is displayed already. -/
theorem types_push (h : type ≠ "") :
    (active.push type).types =
      if type ∈ active.types then active.types else active.types ++ [type] := by
  unfold push accepts contains
  by_cases hmem : type ∈ active.types <;> simp [h, hmem]

/-- `remove` takes out the type that it is given and nothing else. -/
theorem mem_remove :
    other ∈ (active.remove type).types ↔ other ∈ active.types ∧ other ≠ type := by
  simp [remove]

/-- A set is not empty after a type that is not empty was pushed. -/
theorem push_ne_nil (h : type ≠ "") : (active.push type).types ≠ [] :=
  List.ne_nil_of_mem (mem_push.2 (Or.inr ⟨rfl, h⟩))

/-- No column is displayed twice, and every displayed column has a type. -/
structure WellFormed (active : ActiveColumns) : Prop where
  nodup : active.types.Nodup
  named : "" ∉ active.types

/-- The empty set is well formed. -/
theorem well_formed_empty : WellFormed {} :=
  ⟨List.nodup_nil, by simp⟩

/-- `push` refuses what would break well-formedness. -/
theorem WellFormed.push (h : active.WellFormed) (type : String) :
    (active.push type).WellFormed := by
  constructor
  · unfold ActiveColumns.push
    split
    · rename_i haccepts
      have hnew : type ∉ active.types := by
        simp only [accepts, contains, Bool.and_eq_true, Bool.not_eq_true', List.contains_eq_mem,
          decide_eq_false_iff_not] at haccepts
        exact haccepts.2
      rw [List.nodup_append]
      refine ⟨h.nodup, List.nodup_singleton _, ?_⟩
      rintro other hmem last hlast rfl
      exact hnew (List.mem_singleton.1 hlast ▸ hmem)
    · exact h.nodup
  · rw [mem_push]
    intro h
    rcases h with hmem | ⟨rfl, hne⟩
    · exact h.named hmem
    · exact hne rfl

/-- `remove` keeps well-formedness. -/
theorem WellFormed.remove (h : active.WellFormed) (type : String) :
    (active.remove type).WellFormed := by
  refine ⟨h.nodup.filter _, ?_⟩
  rw [mem_remove]
  exact fun hmem => h.named hmem.1

/-- `toggle` keeps well-formedness. -/
theorem WellFormed.toggle (h : active.WellFormed) (type : String) :
    (active.toggle type).2.WellFormed := by
  unfold ActiveColumns.toggle
  split
  · split
    · exact h.remove type
    · exact h
  · exact h.push type

/-- `toggle` displays at most the column that it is given in addition. -/
theorem mem_of_mem_toggle (h : other ∈ (active.toggle type).2.types) :
    other ∈ active.types ∨ other = type := by
  unfold toggle at h
  split at h
  · split at h
    · exact Or.inl (mem_remove.1 h).1
    · exact Or.inl h
  · exact (mem_push.1 h).imp_right And.left

/-- `toggle` does not hide the last column. -/
theorem toggle_ne_nil (h : active.WellFormed) (hne : active.types ≠ []) :
    (active.toggle type).2.types ≠ [] := by
  unfold toggle
  split
  · split
    · rename_i hlength
      intro hempty
      have hall : ∀ other ∈ active.types, other = type := by
        intro other hmem
        by_contra hother
        have hstays : other ∈ (active.remove type).types := mem_remove.2 ⟨hmem, hother⟩
        rw [hempty] at hstays
        exact List.not_mem_nil hstays
      have hle : active.types.length ≤ [type].length :=
        (h.nodup.subperm fun other hmem => by simp [hall other hmem]).length_le
      simp only [List.length_singleton] at hle
      omega
    · exact hne
  · intro hempty
    obtain ⟨first, hfirst⟩ := List.exists_mem_of_ne_nil _ hne
    have hstays : first ∈ (active.push type).types := mem_push.2 (Or.inl hfirst)
    rw [hempty] at hstays
    exact List.not_mem_nil hstays

/-! ## Sets that are built from lists -/

/-- Pushing the types of a list one after the other keeps well-formedness. -/
theorem WellFormed.pushes (h : active.WellFormed) (types : List String) :
    (types.foldl ActiveColumns.push active).WellFormed := by
  induction types generalizing active with
  | nil => exact h
  | cons type types ih => exact ih (h.push type)

/-- Pushing the types of a list adds those that are not empty and nothing else. -/
theorem mem_pushes (types : List String) :
    other ∈ (types.foldl push active).types ↔
      other ∈ active.types ∨ (other ∈ types ∧ other ≠ "") := by
  induction types generalizing active with
  | nil => simp
  | cons type types ih =>
      rw [List.foldl_cons, ih, mem_push, List.mem_cons]
      constructor
      · intro h
        rcases h with (hmem | ⟨rfl, hne⟩) | ⟨hmem, hne⟩
        · exact Or.inl hmem
        · exact Or.inr ⟨Or.inl rfl, hne⟩
        · exact Or.inr ⟨Or.inr hmem, hne⟩
      · intro h
        rcases h with hmem | ⟨rfl | hmem, hne⟩
        · exact Or.inl (Or.inl hmem)
        · exact Or.inl (Or.inr ⟨rfl, hne⟩)
        · exact Or.inr ⟨hmem, hne⟩

variable {saved : List String} {isValid : String → Bool}

/-- What is displayed of a saved list is well formed, whatever was saved. -/
theorem well_formed_of_saved : (ofSaved saved isValid).1.WellFormed :=
  well_formed_empty.pushes _

/-- What is displayed of a saved list are its valid types that are not empty. -/
theorem mem_of_saved :
    other ∈ (ofSaved saved isValid).1.types ↔
      other ∈ saved ∧ isValid other = true ∧ other ≠ "" := by
  simp [ofSaved, ofList, mem_pushes, and_assoc]

/-- Pushing the types of a list puts the first occurrences of those that are accepted at the end. -/
theorem types_pushes (types : List String) :
    (types.foldl push active).types = active.types ++ (types.filter active.accepts).eraseDups := by
  induction types generalizing active with
  | nil => simp
  | cons type types ih =>
      rw [List.foldl_cons, ih]
      by_cases haccepts : active.accepts type = true
      · -- What is pushed is not accepted again.
        have hpush : active.push type = ⟨active.types ++ [type]⟩ := if_pos haccepts
        have hlater : types.filter (active.push type).accepts =
            (types.filter active.accepts).filter fun other => !other == type := by
          rw [List.filter_filter]
          refine List.filter_congr fun other _ => ?_
          rw [hpush, Bool.eq_iff_iff]
          simp [accepts, contains, and_comm, and_left_comm]
        rw [List.filter_cons_of_pos haccepts, List.eraseDups_cons, ← hlater, hpush,
          List.append_assoc, List.singleton_append]
      · have hpush : active.push type = active := if_neg haccepts
        rw [List.filter_cons_of_neg haccepts, hpush]

/-- What is displayed of a saved list are the first occurrences of its valid types that are not
empty. -/
theorem types_of_saved :
    (ofSaved saved isValid).1.types =
      (saved.filter fun type => type != "" && isValid type).eraseDups := by
  have hnone : accepts {} = fun type => type != "" := by
    funext type
    simp [accepts, contains]
  show ((saved.filter isValid).foldl push {}).types = _
  rw [types_pushes, List.nil_append, hnone, List.filter_filter]

/-- Pushing types that are new and not empty puts them at the end. -/
theorem pushes_eq_append {types : List String} (h : (active.types ++ types).Nodup)
    (hnamed : "" ∉ types) : types.foldl push active = ⟨active.types ++ types⟩ := by
  induction types generalizing active with
  | nil => simp
  | cons type types ih =>
      have hnew : type ∉ active.types := by
        intro hmem
        exact (List.nodup_append.1 h).2.2 type hmem type List.mem_cons_self rfl
      have hne : type ≠ "" := by
        rintro rfl
        exact hnamed List.mem_cons_self
      have hpush : active.push type = ⟨active.types ++ [type]⟩ := by
        simp [push, accepts, contains, hne, hnew]
      rw [List.foldl_cons, hpush, ih]
      · simp
      · simpa using h
      · exact fun hmem => hnamed (List.mem_cons_of_mem _ hmem)

/-- What is displayed of well-formed columns that are all valid are these columns. -/
theorem WellFormed.of_saved_self (h : active.WellFormed)
    (hvalid : ∀ type ∈ active.types, isValid type = true) :
    (ofSaved active.types isValid).1 = active := by
  have hall : active.types.filter isValid = active.types := List.filter_eq_self.2 hvalid
  show (active.types.filter isValid).foldl ActiveColumns.push {} = active
  rw [hall, pushes_eq_append (by simpa using h.nodup) h.named]
  rfl

end CardBrowser.ActiveColumns
