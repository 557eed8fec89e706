import Mathlib
import CardBrowser.Proofs.Column.Registry
import CardBrowser.Proofs.Outcome

/-!
# What a sort key depends on

The sort key of a type is that of the column which is found by the type: `sort_key_eq_bind`. It
changes when another column is registered under the type, and it may change when the column is
asked, because the host program may answer something else each time. `Registry.IsFixed` rules that
out, and then asking any column leaves every sort key as it was: `sort_key_after_sort_key`.
-/

namespace CardBrowser

namespace CustomColumn

variable {column : CustomColumn}

/-- A column gives the same sort expression whenever it is asked for one. -/
def IsFixed (column : CustomColumn) : Prop :=
  ∀ source ∈ column.sort, ∀ m n, source.answer m = source.answer n

/-- What a search by the column sorts by. -/
def key? (column : CustomColumn) : Option SortKey :=
  match column.askSort.1 with
  | some (.ok expression) => some (SortKey.ofExpression expression column.cached)
  | _ => none

/-- A column that has been asked keeps its type, and whether its values are cached. -/
theorem ask_sort_same (column : CustomColumn) :
    column.askSort.2.type = column.type ∧ column.askSort.2.cached = column.cached := by
  unfold askSort
  split <;> exact ⟨rfl, rfl⟩

/-- A column stays fixed when it is asked. -/
theorem IsFixed.ask_sort (h : column.IsFixed) : column.askSort.2.IsFixed := by
  unfold askSort
  split
  · exact h
  · rename_i source hsource
    intro asked hasked
    cases hasked
    exact h source hsource

/-- A fixed column has the same sort key after it has been asked. -/
theorem IsFixed.key_ask_sort (h : column.IsFixed) : column.askSort.2.key? = column.key? := by
  have hanswer : column.askSort.2.askSort.1 = column.askSort.1 := by
    unfold askSort
    cases hsource : column.sort with
    | none => simp [hsource]
    | some source =>
        show some (source.answer (source.asked + 1)) = some (source.answer source.asked)
        rw [h source hsource (source.asked + 1) source.asked]
  unfold key?
  rw [hanswer, (ask_sort_same column).2]

end CustomColumn

namespace Registry

variable {registry next : Registry} {column : CustomColumn} {type other : String}

/-! ## Look-ups after a change -/

/-- A column that is put into a list is found by its type, and those of other types as before. -/
theorem find_put (columns : List CustomColumn) :
    (put column columns).find? (·.type == other) =
      if column.type = other then some column else columns.find? (·.type == other) := by
  induction columns with
  | nil =>
      by_cases hother : column.type = other
      · simp [put, hother]
      · simp [put, hother]
  | cons first rest ih =>
      unfold put
      by_cases hfirst : first.type = column.type
      · rw [if_pos hfirst]
        by_cases hother : column.type = other
        · simp [hother]
        · have hne : (column.type == other) = false := beq_eq_false_iff_ne.2 hother
          simp only [List.find?_cons, hfirst, hne, if_neg hother]
      · rw [if_neg hfirst, List.find?_cons, List.find?_cons, ih]
        by_cases hother : column.type = other
        · have hne : (first.type == other) = false := beq_eq_false_iff_ne.2 (hother ▸ hfirst)
          simp only [hne, if_pos hother]
        · simp only [if_neg hother]

/-- A registration changes what is found by the type of the column only. -/
theorem lookup_register (h : registry.register column = .ok next) (hne : other ≠ column.type) :
    next.lookup other = registry.lookup other := by
  unfold register at h
  split at h
  · cases h
  · cases h
    exact (find_put registry.columns).trans (if_neg (Ne.symm hne))

/-- Asking a column changes what is found by its type only: the column that has been asked. -/
theorem lookup_ask_sort :
    (registry.askSort type).2.lookup other =
      if type = other then (registry.lookup type).map (·.askSort.2) else registry.lookup other := by
  unfold askSort
  cases hlookup : registry.lookup type with
  | none =>
      show registry.lookup other = _
      split
      · rename_i heq
        rw [← heq, hlookup]
        rfl
      · rfl
  | some column =>
      have htype : column.askSort.2.type = type :=
        (CustomColumn.ask_sort_same column).1.trans (type_of_lookup hlookup)
      refine (find_put registry.columns).trans ?_
      rw [htype, Option.map_some]
      rfl

/-! ## Sort keys -/

/-- The sort key of a type is that of the column that is found. -/
theorem sort_key_eq_bind (registry : Registry) (type : String) :
    (registry.sortKey type).1 = (registry.lookup type).bind CustomColumn.key? := by
  unfold sortKey askSort CustomColumn.key?
  cases registry.lookup type with
  | none => rfl
  | some column =>
      dsimp only [Option.bind_some]
      rcases column.askSort.1 with _ | _ | _ <;> rfl

/-- Finding the sort key of a type asks the column of the type. -/
theorem sort_key_snd (registry : Registry) (type : String) :
    (registry.sortKey type).2 = (registry.askSort type).2 := by
  unfold sortKey
  cases hlookup : registry.lookup type with
  | none => simp [askSort, hlookup]
  | some column => rcases hask : registry.askSort type with ⟨_ | _ | _, asked⟩ <;> rfl

/-- Every column of a registry gives the same sort expression whenever it is asked. -/
def IsFixed (registry : Registry) : Prop :=
  ∀ column ∈ registry.columns, column.IsFixed

/-- Putting a column into a list brings no other column. -/
theorem mem_of_mem_put {columns : List CustomColumn} {member : CustomColumn}
    (h : member ∈ put column columns) : member = column ∨ member ∈ columns := by
  induction columns with
  | nil => exact Or.inl (List.mem_singleton.1 h)
  | cons first rest ih =>
      unfold put at h
      split at h
      · exact (List.mem_cons.1 h).imp_right (List.mem_cons_of_mem _)
      · rcases List.mem_cons.1 h with rfl | h
        · exact Or.inr List.mem_cons_self
        · exact (ih h).imp_right (List.mem_cons_of_mem _)

/-- Registering a fixed column keeps a registry fixed. -/
theorem IsFixed.register (h : registry.IsFixed) (hcolumn : column.IsFixed)
    (hregister : registry.register column = .ok next) : next.IsFixed := by
  unfold Registry.register at hregister
  split at hregister
  · cases hregister
  · cases hregister
    intro member hmem
    rcases mem_of_mem_put hmem with rfl | hmem
    · exact hcolumn
    · exact h member hmem

/-- Finding a sort key keeps a registry fixed. -/
theorem IsFixed.sort_key (h : registry.IsFixed) : (registry.sortKey type).2.IsFixed := by
  rw [sort_key_snd]
  unfold askSort
  cases hlookup : registry.lookup type with
  | none => exact h
  | some column =>
      intro member hmem
      rcases mem_of_mem_put hmem with rfl | hmem
      · exact (h column (List.mem_of_find?_eq_some hlookup)).ask_sort
      · exact h member hmem

/-- In a fixed registry the sort keys are the same after one of them has been found. -/
theorem sort_key_after_sort_key (h : registry.IsFixed) :
    ((registry.sortKey type).2.sortKey other).1 = (registry.sortKey other).1 := by
  rw [sort_key_eq_bind, sort_key_eq_bind, sort_key_snd, lookup_ask_sort]
  split
  · rename_i heq
    subst heq
    cases hlookup : registry.lookup type with
    | none => rfl
    | some column => exact (h column (List.mem_of_find?_eq_some hlookup)).key_ask_sort
  · rfl

end Registry

end CardBrowser
