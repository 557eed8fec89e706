import Mathlib
import CardBrowser.Proofs.Column.Active

/-!
# Displayed columns after many calls

The displayed columns begin with a list, `Origin`, and change by calls. Whatever the calls are, no
column is displayed twice, every displayed column has a type (`well_formed_run`), and the columns
that no call names stay where they are among each other (`filter_run`). `toggle` tells what it has
done and is undone by a second one, as far as the order of the columns does not matter:
`contains_toggle` and `mem_toggle_toggle`.
-/

namespace CardBrowser.ActiveColumns

/-- A call that may change the displayed columns. -/
inductive Call where
  | push (type : String)
  | remove (type : String)
  | toggle (type : String)
deriving DecidableEq, Repr

/-- The column that a call names. -/
def Call.type : Call → String
  | push type | remove type | toggle type => type

/-- The displayed columns after a call. -/
def step (active : ActiveColumns) : Call → ActiveColumns
  | .push type => active.push type
  | .remove type => active.remove type
  | .toggle type => (active.toggle type).2

/-- The displayed columns after several calls. -/
def run (active : ActiveColumns) (calls : List Call) : ActiveColumns :=
  calls.foldl step active

/-- What columns are displayed at first: those of a list, or those of a saved list that are still
valid. -/
inductive Origin where
  | list (types : List String)
  | saved (types : List String) (isValid : String → Bool)

/-- The columns that are displayed at first. -/
def Origin.columns : Origin → ActiveColumns
  | list types => ofList types
  | saved types isValid => (ofSaved types isValid).1

variable {active : ActiveColumns} {type other : String} {calls : List Call}

/-! ## One call -/

/-- A call keeps well-formedness. -/
theorem WellFormed.step (h : active.WellFormed) (call : Call) : (active.step call).WellFormed := by
  cases call with
  | push type => exact h.push type
  | remove type => exact h.remove type
  | toggle type => exact h.toggle type

/-- `toggle` does to a list what `push` or `remove` does, or nothing. -/
theorem toggle_cases (active : ActiveColumns) (type : String) :
    (active.toggle type).2 = active.push type ∨ (active.toggle type).2 = active.remove type ∨
      (active.toggle type).2 = active := by
  unfold toggle
  split
  · split
    · exact Or.inr (Or.inl rfl)
    · exact Or.inr (Or.inr rfl)
  · exact Or.inl rfl

variable {keep : String → Bool}

/-- What is pushed stands after the others. -/
theorem filter_push (h : keep type = false) :
    (active.push type).types.filter keep = active.types.filter keep := by
  unfold push
  split
  · simp [List.filter_append, h]
  · rfl

/-- What is removed leaves the others in their order. -/
theorem filter_remove (h : keep type = false) :
    (active.remove type).types.filter keep = active.types.filter keep := by
  show (active.types.filter (· != type)).filter keep = _
  rw [List.filter_filter]
  refine List.filter_congr fun other _ => ?_
  by_cases heq : other = type
  · rw [heq, h, Bool.false_and]
  · rw [bne_iff_ne.2 heq, Bool.and_true]

/-- A call leaves the columns that it does not name as they are, and in their order. -/
theorem filter_step {call : Call} (h : keep call.type = false) :
    (active.step call).types.filter keep = active.types.filter keep := by
  cases call with
  | push type => exact filter_push h
  | remove type => exact filter_remove h
  | toggle type =>
      have hnamed : keep type = false := h
      show (active.toggle type).2.types.filter keep = _
      rcases toggle_cases active type with heq | heq | heq
      · rw [heq, filter_push hnamed]
      · rw [heq, filter_remove hnamed]
      · rw [heq]

/-! ## Toggling -/

/-- `toggle` hides a column that is displayed beside another one. -/
theorem toggle_of_mem (hmem : type ∈ active.types) (hother : other ∈ active.types)
    (hne : other ≠ type) : active.toggle type = (false, active.remove type) := by
  have hlength : 1 < active.types.length := by
    by_contra hshort
    obtain ⟨only, honly⟩ := List.length_eq_one_iff.1
      (le_antisymm (not_lt.1 hshort) (List.length_pos_of_mem hmem))
    rw [honly, List.mem_singleton] at hmem hother
    exact hne (hother.trans hmem.symm)
  unfold toggle
  rw [if_pos (contains_iff.2 hmem), if_pos hlength]

/-- `toggle` displays a column that is not displayed, if it has a type. -/
theorem toggle_of_not_mem (hmem : type ∉ active.types) (hne : type ≠ "") :
    active.toggle type = (true, active.push type) := by
  have hnot : active.contains type = false := by
    rw [← Bool.not_eq_true, contains_iff]
    exact hmem
  have haccepts : active.accepts type = true := by
    rw [accepts, hnot, bne_iff_ne.2 hne]
    rfl
  rw [toggle, hnot, haccepts]
  rfl

/-- `toggle` tells whether the column is displayed afterwards. -/
theorem contains_toggle (active : ActiveColumns) (type : String) :
    (active.toggle type).2.contains type = (active.toggle type).1 := by
  unfold toggle
  rw [Bool.eq_iff_iff, contains_iff]
  split
  · rename_i hcontains
    split
    · simp [mem_remove]
    · simpa using contains_iff.1 hcontains
  · rename_i hcontains
    rw [contains_iff] at hcontains
    rw [mem_push, accepts]
    simp [contains, hcontains]

/-- Toggling a column twice displays the columns that were displayed before, if there is another
one. -/
theorem mem_toggle_toggle (hne : type ≠ "") (hother : other ∈ active.types)
    (hdiffers : other ≠ type) (column : String) :
    column ∈ ((active.toggle type).2.toggle type).2.types ↔ column ∈ active.types := by
  by_cases hmem : type ∈ active.types
  · -- The column is hidden and displayed again, now as the last one.
    have hhidden : type ∉ (active.remove type).types := fun h => (mem_remove.1 h).2 rfl
    rw [toggle_of_mem hmem hother hdiffers, toggle_of_not_mem hhidden hne, mem_push, mem_remove]
    constructor
    · rintro (⟨h, -⟩ | ⟨rfl, -⟩)
      · exact h
      · exact hmem
    · intro h
      by_cases heq : column = type
      · exact Or.inr ⟨heq, hne⟩
      · exact Or.inl ⟨h, heq⟩
  · have hshown : type ∈ (active.push type).types := mem_push.2 (Or.inr ⟨rfl, hne⟩)
    have hstays : other ∈ (active.push type).types := mem_push.2 (Or.inl hother)
    rw [toggle_of_not_mem hmem hne, toggle_of_mem hshown hstays hdiffers, mem_remove, mem_push]
    constructor
    · rintro ⟨h | ⟨rfl, -⟩, hcolumn⟩
      · exact h
      · exact absurd rfl hcolumn
    · intro h
      exact ⟨Or.inl h, fun heq => hmem (heq ▸ h)⟩

/-! ## All calls -/

/-- Columns that are displayed at first are well formed. -/
theorem Origin.well_formed_columns (origin : Origin) : origin.columns.WellFormed := by
  cases origin with
  | list types => exact well_formed_empty.pushes types
  | saved types isValid => exact well_formed_of_saved

/-- Calls keep well-formedness. -/
theorem WellFormed.run (h : active.WellFormed) (calls : List Call) :
    (active.run calls).WellFormed := by
  induction calls generalizing active with
  | nil => exact h
  | cons call calls ih => exact ih (h.step call)

/-- Calls leave the columns that none of them names as they are, and in their order. -/
theorem filter_run (h : ∀ call ∈ calls, keep call.type = false) :
    (active.run calls).types.filter keep = active.types.filter keep := by
  induction calls generalizing active with
  | nil => rfl
  | cons call calls ih =>
      obtain ⟨hcall, hcalls⟩ := List.forall_mem_cons.1 h
      exact (ih hcalls).trans (filter_step hcall)

/-- What is found of a saved list are the first occurrences of its valid types that are not empty,
in their order; the invalid ones are reported, all of them. After any calls no column is displayed
twice and none without a type. `toggle` tells whether the column is displayed afterwards, leaves
some column displayed, and is undone by a second one if there is another column. Further calls leave
the columns that they do not name in their order. -/
theorem displayed_after_calls :
    (∀ (saved : List String) (isValid : String → Bool),
      (ofSaved saved isValid).1.types =
          (saved.filter fun type => type != "" && isValid type).eraseDups ∧
        (ofSaved saved isValid).2 = saved.filter fun type => !isValid type) ∧
    ∀ (origin : Origin) (calls : List Call) (active : ActiveColumns),
      active = origin.columns.run calls →
        active.types.Nodup ∧ "" ∉ active.types ∧
        (∀ type, (active.toggle type).1 = true ↔ type ∈ (active.toggle type).2.types) ∧
        (∀ type, active.types ≠ [] → (active.toggle type).2.types ≠ []) ∧
        (∀ type, type ≠ "" → (∃ other ∈ active.types, other ≠ type) → ∀ column,
          column ∈ ((active.toggle type).2.toggle type).2.types ↔ column ∈ active.types) ∧
        ∀ (later : List Call) (keep : String → Bool), (∀ call ∈ later, keep call.type = false) →
          (active.run later).types.filter keep = active.types.filter keep := by
  refine ⟨fun saved isValid => ⟨types_of_saved, rfl⟩, ?_⟩
  rintro origin calls active rfl
  have hformed := origin.well_formed_columns.run calls
  refine ⟨hformed.nodup, hformed.named, fun type => ?_, fun type => toggle_ne_nil hformed, ?_,
    fun later keep => filter_run⟩
  · rw [← contains_iff, contains_toggle]
  · rintro type hne ⟨other, hother, hdiffers⟩ column
    exact mem_toggle_toggle hne hother hdiffers column

/-- Of a saved list with repetitions the first occurrences count. A new column is hidden and comes
back beside the one that has stayed where it was. -/
theorem displayed_after_calls_twice :
    (ofSaved ["deck", "gone", "tags", "", "deck", "gone"] (· != "gone")).1.types =
        ["deck", "tags"] ∧
      (ofSaved ["deck", "gone", "tags", "", "deck", "gone"] (· != "gone")).2 = ["gone", "gone"] ∧
      "due" ∈ ((toggle ⟨["tags", "due"]⟩ "due").2.toggle "due").2.types ∧
      (run ⟨["tags", "due"]⟩ [.toggle "due", .push "deck"]).types.filter (· == "tags") =
        ["tags"] := by
  obtain ⟨hsaved, hcalls⟩ := displayed_after_calls
  obtain ⟨hfound, hdropped⟩ :=
    hsaved ["deck", "gone", "tags", "", "deck", "gone"] (· != "gone")
  obtain ⟨-, -, -, -, htwice, hkept⟩ := hcalls (.list ["deck", "tags", "deck"])
    [.toggle "deck", .push "due"] ⟨["tags", "due"]⟩ (by decide)
  refine ⟨hfound.trans (by decide), hdropped.trans (by decide), ?_, ?_⟩
  · exact (htwice "due" (by decide) ⟨"tags", by decide, by decide⟩ "due").2 (by decide)
  · exact (hkept [.toggle "due", .push "deck"] (· == "tags") (by decide)).trans (by decide)

end CardBrowser.ActiveColumns
