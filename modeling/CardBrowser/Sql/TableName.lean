import CardBrowser.Sql.Reading

/-!
# Table names

A statement names a table by its name alone or after the part of the database that holds it.
-/

namespace CardBrowser.Sql

/-- A table as a statement names it. -/
structure TableName where
  /-- The part of the database, if the statement says one. -/
  part : Option String := none
  name : String
deriving DecidableEq, Repr

/-- A table name as it is told in an error. -/
def TableName.text (table : TableName) : String :=
  match table.part with
  | some part => part ++ "." ++ table.name
  | none => table.name

/-- A table name. -/
def readTableName (tokens : List Token) : Except Misread (TableName × List Token) := do
  let (first, rest) ← readName tokens
  match rest with
  | .symbol "." :: rest =>
    let (name, rest) ← readName rest
    return (⟨some first, name⟩, rest)
  | rest => return (⟨none, first⟩, rest)

/-- The words `IF NOT EXISTS`, which may be left out. -/
def readIfNotExists (tokens : List Token) : Except Misread (Bool × List Token) :=
  readOption "if" ["not", "exists"] tokens

end CardBrowser.Sql
