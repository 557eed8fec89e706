/-!
# Tables

A table keeps its rows in ascending order of their ids, one row to an id, so two tables that hold
the same rows are equal. Read `mem_insert` and `mem_erase` first: they say which rows are there
after a change.
-/

namespace CardBrowser

/-- Rows that are known by an id. -/
class Identified (α : Type) where
  id : α → Int

namespace Database

/-- The rows of a table. -/
structure Table (α : Type) [Identified α] where
  rows : List α := []
  ascending : rows.Pairwise fun a b => Identified.id a < Identified.id b := by simp

namespace Table

variable {α : Type} [Identified α]

/-- The row of an id. -/
def find? (table : Table α) (id : Int) : Option α :=
  table.rows.find? fun row => Identified.id row == id

/-- Whether there is a row of that id. -/
def contains (table : Table α) (id : Int) : Bool :=
  (table.find? id).isSome

/-- Puts a row among rows in ascending order, in place of the one that has its id. -/
def put (row : α) : List α → List α
  | [] => [row]
  | other :: rest =>
    if Identified.id row < Identified.id other then row :: other :: rest
    else if Identified.id row = Identified.id other then row :: rest
    else other :: put row rest

theorem mem_put_of_ascending {row other : α} {rows : List α}
    (h : rows.Pairwise fun a b => Identified.id a < Identified.id b) :
    other ∈ put row rows ↔
      other = row ∨ (other ∈ rows ∧ Identified.id other ≠ Identified.id row) := by
  induction rows with
  | nil => simp [put]
  | cons first rest ih =>
    obtain ⟨hfirst, hrest⟩ := List.pairwise_cons.1 h
    unfold put
    split
    · rename_i hlt
      constructor
      · intro hmem
        rcases List.mem_cons.1 hmem with rfl | hmem
        · exact Or.inl rfl
        · refine Or.inr ⟨hmem, ?_⟩
          rcases List.mem_cons.1 hmem with rfl | hmem
          · omega
          · have := hfirst other hmem
            omega
      · rintro (rfl | ⟨hmem, -⟩)
        · exact List.mem_cons_self
        · exact List.mem_cons_of_mem _ hmem
    · split
      · rename_i heq
        constructor
        · intro hmem
          rcases List.mem_cons.1 hmem with rfl | hmem
          · exact Or.inl rfl
          · have := hfirst other hmem
            exact Or.inr ⟨List.mem_cons_of_mem _ hmem, by omega⟩
        · rintro (rfl | ⟨hmem, hne⟩)
          · exact List.mem_cons_self
          · rcases List.mem_cons.1 hmem with rfl | hmem
            · exact absurd heq.symm hne
            · exact List.mem_cons_of_mem _ hmem
      · rename_i hlt hne
        rw [List.mem_cons, ih hrest, List.mem_cons]
        constructor
        · rintro (rfl | rfl | ⟨hmem, hid⟩)
          · exact Or.inr ⟨Or.inl rfl, fun he => hne he.symm⟩
          · exact Or.inl rfl
          · exact Or.inr ⟨Or.inr hmem, hid⟩
        · rintro (rfl | ⟨rfl | hmem, hid⟩)
          · exact Or.inr (Or.inl rfl)
          · exact Or.inl rfl
          · exact Or.inr (Or.inr ⟨hmem, hid⟩)

theorem put_ascending {row : α} {rows : List α}
    (h : rows.Pairwise fun a b => Identified.id a < Identified.id b) :
    (put row rows).Pairwise fun a b => Identified.id a < Identified.id b := by
  induction rows with
  | nil => simp [put]
  | cons first rest ih =>
    obtain ⟨hfirst, hrest⟩ := List.pairwise_cons.1 h
    unfold put
    split
    · rename_i hlt
      refine List.pairwise_cons.2 ⟨fun other hmem => ?_, h⟩
      rcases List.mem_cons.1 hmem with rfl | hmem
      · exact hlt
      · have := hfirst other hmem
        omega
    · split
      · rename_i heq
        exact List.pairwise_cons.2 ⟨fun other hmem => heq ▸ hfirst other hmem, hrest⟩
      · rename_i hlt hne
        refine List.pairwise_cons.2 ⟨fun other hmem => ?_, ih hrest⟩
        rcases (mem_put_of_ascending hrest).1 hmem with rfl | ⟨hmem, -⟩
        · omega
        · exact hfirst other hmem

/-- Adds a row, in place of the one that has its id. -/
def insert (table : Table α) (row : α) : Table α :=
  ⟨put row table.rows, put_ascending table.ascending⟩

/-- The rows that satisfy a condition. -/
def filter (keep : α → Bool) (table : Table α) : Table α :=
  ⟨table.rows.filter keep, table.ascending.filter keep⟩

/-- Removes the row of an id. -/
def erase (table : Table α) (id : Int) : Table α :=
  table.filter fun row => Identified.id row != id

theorem mem_insert {table : Table α} {row other : α} :
    other ∈ (table.insert row).rows ↔
      other = row ∨ (other ∈ table.rows ∧ Identified.id other ≠ Identified.id row) :=
  mem_put_of_ascending table.ascending

theorem mem_erase {table : Table α} {id : Int} {other : α} :
    other ∈ (table.erase id).rows ↔ other ∈ table.rows ∧ Identified.id other ≠ id := by
  simp [erase, filter]

theorem find?_eq_some_iff {table : Table α} {id : Int} {row : α} :
    table.find? id = some row ↔ row ∈ table.rows ∧ Identified.id row = id := by
  have key : ∀ {rows : List α},
      rows.Pairwise (fun a b => Identified.id a < Identified.id b) →
      (rows.find? (fun other => Identified.id other == id) = some row ↔
        row ∈ rows ∧ Identified.id row = id) := by
    intro rows h
    induction rows with
    | nil => simp
    | cons first rest ih =>
      obtain ⟨hfirst, hrest⟩ := List.pairwise_cons.1 h
      by_cases hid : Identified.id first = id
      · rw [List.find?_cons_of_pos (by simpa using hid)]
        constructor
        · rintro ⟨rfl⟩
          exact ⟨List.mem_cons_self, hid⟩
        · rintro ⟨hmem, hrow⟩
          rcases List.mem_cons.1 hmem with rfl | hmem
          · rfl
          · have := hfirst row hmem
            omega
      · rw [List.find?_cons_of_neg (by simpa using hid), ih hrest]
        constructor
        · rintro ⟨hmem, hrow⟩
          exact ⟨List.mem_cons_of_mem _ hmem, hrow⟩
        · rintro ⟨hmem, hrow⟩
          rcases List.mem_cons.1 hmem with rfl | hmem
          · exact absurd hrow hid
          · exact ⟨hmem, hrow⟩
  exact key table.ascending

end Table

end Database

end CardBrowser
