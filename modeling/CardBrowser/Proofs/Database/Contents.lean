import Mathlib
import CardBrowser.Database.Contents

/-!
# What a database holds

A table is determined by the rows in it (`Table.eq_of_mem_iff`), so databases that hold the same
rows are equal in whatever order the rows were added: `SameContents.eq`.
-/

namespace CardBrowser.Database

/-! ## Tables -/

namespace Table

variable {α : Type} [Identified α]

/-- The table without rows. -/
def empty : Table α := {}

/-- Lists of rows in ascending order are equal if they hold the same rows. -/
theorem rows_eq_of_mem_iff {rows others : List α}
    (hrows : rows.Pairwise fun a b => Identified.id a < Identified.id b)
    (hothers : others.Pairwise fun a b => Identified.id a < Identified.id b)
    (h : ∀ row, row ∈ rows ↔ row ∈ others) : rows = others := by
  have hantisymm : Std.Antisymm fun a b : α => Identified.id a < Identified.id b :=
    ⟨fun _ _ hlt hgt => absurd hgt (lt_asymm hlt)⟩
  have hirrefl : Std.Irrefl fun a b : α => Identified.id a < Identified.id b :=
    ⟨fun _ => lt_irrefl _⟩
  exact hrows.eq_of_mem_iff hothers h

/-- Tables with the same rows are equal. -/
theorem eq_of_mem_iff {table other : Table α} (h : ∀ row, row ∈ table.rows ↔ row ∈ other.rows) :
    table = other := by
  have hrows := rows_eq_of_mem_iff table.ascending other.ascending h
  cases table
  cases other
  congr

/-- The rows of an id are the one that is found by it. -/
theorem filter_id_eq (table : Table α) (id : Int) :
    table.rows.filter (fun row => Identified.id row == id) = (table.find? id).toList := by
  refine rows_eq_of_mem_iff (table.ascending.filter _) ?_ fun row => ?_
  · cases table.find? id <;> simp
  · rw [List.mem_filter, beq_iff_eq, Option.mem_toList, find?_eq_some_iff]

/-- No two rows of a table have the same id. -/
theorem ids_nodup (table : Table α) : (table.rows.map Identified.id).Nodup :=
  (List.pairwise_map.2 table.ascending).imp fun hlt => ne_of_lt hlt

/-- A table contains an id if one of its rows has it. -/
theorem contains_iff {table : Table α} {id : Int} :
    table.contains id = true ↔ ∃ row ∈ table.rows, Identified.id row = id := by
  unfold contains
  rw [Option.isSome_iff_exists]
  simp only [find?_eq_some_iff]

/-- A table with a new row has the ids that it had and the id of that row. -/
theorem contains_insert {table : Table α} {row : α} {id : Int} :
    (table.insert row).contains id = true ↔ id = Identified.id row ∨ table.contains id = true := by
  simp only [contains_iff, mem_insert]
  constructor
  · intro h
    obtain ⟨other, rfl | ⟨hmem, hne⟩, rfl⟩ := h
    · exact Or.inl rfl
    · exact Or.inr ⟨other, hmem, rfl⟩
  · intro h
    rcases h with rfl | ⟨other, hmem, rfl⟩
    · exact ⟨row, Or.inl rfl, rfl⟩
    · by_cases hid : Identified.id other = Identified.id row
      · exact ⟨row, Or.inl rfl, hid.symm⟩
      · exact ⟨other, Or.inr ⟨hmem, hid⟩, rfl⟩

end Table

/-- Two tables are both missing or hold the same rows. -/
def SameRows {α : Type} [Identified α] : Option (Table α) → Option (Table α) → Prop
  | some table, some other => ∀ row, row ∈ table.rows ↔ row ∈ other.rows
  | none, none => True
  | _, _ => False

/-- Two databases hold the same rows, in whatever order these were added. -/
structure SameContents (database other : Database) : Prop where
  noteTypes : SameRows database.noteTypes other.noteTypes
  notes : SameRows database.notes other.notes
  cards : SameRows database.cards other.cards
  versions : database.versions = other.versions
  others : database.others = other.others
  temporary : database.temporary = other.temporary
  foreignKeys : database.foreignKeys = other.foreignKeys

/-- Tables with the same rows are the same. -/
theorem SameRows.eq {α : Type} [Identified α] {table other : Option (Table α)}
    (h : SameRows table other) : table = other := by
  cases table with
  | none =>
      cases other with
      | none => rfl
      | some other => exact False.elim h
  | some table =>
      cases other with
      | none => exact False.elim h
      | some other => exact congrArg some (Table.eq_of_mem_iff h)

/-- Databases that hold the same rows are equal. -/
theorem SameContents.eq {database other : Database} (h : SameContents database other) :
    database = other := by
  obtain ⟨hnoteTypes, hnotes, hcards, hversions, hothers, htemporary, hforeignKeys⟩ := h
  have hnoteTypes := hnoteTypes.eq
  have hnotes := hnotes.eq
  have hcards := hcards.eq
  cases database
  cases other
  simp_all

end CardBrowser.Database
