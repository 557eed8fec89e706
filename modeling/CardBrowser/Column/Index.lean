import CardBrowser.Column.Registry

/-!
# The registry in two parts

Here the columns are kept by their types, and the order of the types is kept apart from them. A call
changes the two parts one after the other, and whoever lists the columns goes through the order and
looks every type up. `Registry.Call` is a call that changes a registry, in one list or in two parts.
-/

namespace CardBrowser

/-! ## Columns by their types -/

/-- Columns by their types, one of each type, in no order that matters. -/
@[ext]
structure ColumnMap where
  entries : List (String × CustomColumn) := []
  distinct : (entries.map Prod.fst).Nodup := by simp

namespace ColumnMap

/-- The column of a type. -/
def get? (map : ColumnMap) (type : String) : Option CustomColumn :=
  map.entries.lookup type

/-- The number of columns. -/
def size (map : ColumnMap) : Nat :=
  map.entries.length

/-- Takes the column of a type away, if there is one. -/
def erase (map : ColumnMap) (type : String) : ColumnMap where
  entries := map.entries.filter (·.1 != type)
  distinct := map.distinct.sublist (List.filter_sublist.map Prod.fst)

/-- Writes a column under a type; the one that was there before is gone. -/
def insert (map : ColumnMap) (type : String) (column : CustomColumn) : ColumnMap where
  entries := (type, column) :: (map.erase type).entries
  distinct := List.nodup_cons.2 ⟨by simp [erase], (map.erase type).distinct⟩

end ColumnMap

/-! ## Calls -/

/-- A call that changes a registry. -/
inductive Registry.Call where
  | register (column : CustomColumn)
  | unregister (type : String)

namespace Registry

/-- The column that a call registers or removes and the registry after it, or the reason why it
fails. -/
def answer (registry : Registry) : Call → Except RegistryError (CustomColumn × Registry)
  | .register column => (registry.register column).map (column, ·)
  | .unregister type => registry.unregister type

/-- The registry after a call, which is the registry before it if the call fails. -/
def step (registry : Registry) (call : Call) : Registry :=
  ((registry.answer call).toOption.map Prod.snd).getD registry

/-- The registry after a sequence of calls. -/
def run (registry : Registry) (calls : List Call) : Registry :=
  calls.foldl step registry

end Registry

/-! ## Two parts -/

/-- The registered columns by their types, and the types in the order of registration. -/
structure IndexedRegistry where
  byType : ColumnMap := {}
  order : List String := []

namespace IndexedRegistry

/-- The number of columns. -/
def size (registry : IndexedRegistry) : Nat :=
  registry.byType.size

/-- The column of a type. -/
def lookup (registry : IndexedRegistry) (type : String) : Option CustomColumn :=
  registry.byType.get? type

/-- Whether a column of the type is registered. -/
def contains (registry : IndexedRegistry) (type : String) : Bool :=
  (registry.byType.get? type).isSome

/-- The columns in the order of their types. A type without a column is passed over. -/
def columns (registry : IndexedRegistry) : List CustomColumn :=
  registry.order.filterMap registry.byType.get?

/-- The columns in the order of their labels. -/
def sortedByLabel (registry : IndexedRegistry) : List CustomColumn :=
  Registry.sortByLabel (·.label) registry.columns

/-- Registers a column, whose type must not be empty. The type is new to the order if no column was
there before. -/
def register (registry : IndexedRegistry) (column : CustomColumn) :
    Except RegistryError CustomColumn × IndexedRegistry :=
  if column.type = "" then (.error (.invalidIdentifier column.type), registry)
  else
    let previous := registry.byType.get? column.type
    let byType := registry.byType.insert column.type column
    if previous.isSome then (.ok column, { registry with byType })
    else (.ok column, ⟨byType, registry.order ++ [column.type]⟩)

/-- Removes the column of a type and returns it. -/
def unregister (registry : IndexedRegistry) (type : String) :
    Except RegistryError CustomColumn × IndexedRegistry :=
  let removed := registry.byType.get? type
  let byType := registry.byType.erase type
  match removed with
  | none => (.error (.notFound type), { registry with byType })
  | some column => (.ok column, ⟨byType, registry.order.filter (· != type)⟩)

/-- Makes a call. The registry may have changed even if the call fails. -/
def call (registry : IndexedRegistry) :
    Registry.Call → Except RegistryError CustomColumn × IndexedRegistry
  | .register column => registry.register column
  | .unregister type => registry.unregister type

/-- The registry after a sequence of calls. -/
def run (registry : IndexedRegistry) (calls : List Registry.Call) : IndexedRegistry :=
  calls.foldl (fun registry call => (registry.call call).2) registry

end IndexedRegistry

end CardBrowser
