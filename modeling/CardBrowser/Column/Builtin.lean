/-!
# Built-in columns

The host program brings a list of columns of its own. It shows their values itself; the browser
knows their types, their labels and the order clauses by which they are sorted.
-/

namespace CardBrowser

/-- A built-in column. One without an order clause is listed in the default order. -/
structure BuiltinColumn where
  type : String
  label : String
  order : Option String := none
deriving DecidableEq, Repr, Inhabited

/-- The built-in columns on offer. -/
structure BuiltinColumns where
  columns : List BuiltinColumn
deriving DecidableEq, Repr

namespace BuiltinColumns

/-- The columns that a host brings unless it says otherwise. -/
def standard : BuiltinColumns where
  columns :=
    [{ type := "question", label := "Question" },
     { type := "answer", label := "Answer" },
     { type := "template", label := "Card" },
     { type := "deck", label := "Deck" },
     { type := "noteFld", label := "Sort Field", order := some "n.sfld COLLATE NOCASE, c.ord" },
     { type := "noteCrt", label := "Created", order := some "n.id, c.ord" },
     { type := "noteMod", label := "Edited", order := some "n.mod, c.ord" },
     { type := "cardMod", label := "Changed", order := some "c.mod" },
     { type := "cardDue", label := "Due", order := some "c.type, c.due" },
     { type := "cardIvl", label := "Interval", order := some "c.ivl" },
     { type := "cardEase", label := "Ease", order := some "(c.type = 0), c.factor" },
     { type := "cardReps", label := "Reviews", order := some "c.reps" },
     { type := "cardLapses", label := "Lapses", order := some "c.lapses" },
     { type := "noteTags", label := "Tags" },
     { type := "note", label := "Note" }]

/-- The types in the order of the list. -/
def types (builtins : BuiltinColumns) : List String :=
  builtins.columns.map (·.type)

/-- The first column of a type. -/
def get? (builtins : BuiltinColumns) (type : String) : Option BuiltinColumn :=
  builtins.columns.find? (·.type == type)

/-- Whether there is a column of the type. -/
def contains (builtins : BuiltinColumns) (type : String) : Bool :=
  builtins.columns.any (·.type == type)

/-- The order clause of a type. -/
def orderClause (builtins : BuiltinColumns) (type : String) : Option String :=
  (builtins.get? type).bind (·.order)

/-- Takes the first column of a type out of the list. -/
def remove (builtins : BuiltinColumns) (type : String) :
    Option (BuiltinColumn × BuiltinColumns) :=
  (builtins.get? type).map fun column =>
    (column, ⟨builtins.columns.eraseP (·.type == type)⟩)

/-- Puts columns back at the end, each one unless a column of its type is there already. -/
def restore (builtins : BuiltinColumns) (removed : List BuiltinColumn) : BuiltinColumns :=
  removed.foldl
    (fun builtins column =>
      if builtins.contains column.type then builtins else ⟨builtins.columns ++ [column]⟩)
    builtins

end BuiltinColumns

end CardBrowser
