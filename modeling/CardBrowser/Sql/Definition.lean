import CardBrowser.Sql.TableName

/-!
# Statements that define tables

Statements that drop a table or create one with given columns. A column may have a type, which is
passed over. Of the statements that create something else only the openings are known.
-/

namespace CardBrowser.Sql

/-- A statement that drops a table. -/
structure Drop where
  /-- Whether the table may be missing. -/
  ifExists : Bool
  table : TableName
deriving DecidableEq, Repr

/-- A drop statement without its end. -/
def readDrop (tokens : List Token) : Except Misread (Drop × List Token) := do
  let rest ← readKeywords ["drop", "table"] tokens
  let (ifExists, rest) ← readOption "if" ["exists"] rest
  let (table, rest) ← readTableName rest
  return (⟨ifExists, table⟩, rest)

/-- The drop statement that a text is. -/
def Drop.ofText (sql : String) : Except Misread Drop := do
  let (drop, rest) ← readDrop (Token.ofText sql)
  readEnd rest
  return drop

/-! ## Creation -/

/-- The opening of a statement that creates a table, up to the name. -/
structure Create where
  isTemporary : Bool
  /-- Whether the table may be there already. -/
  ifNotExists : Bool
  table : TableName
deriving DecidableEq, Repr

/-- The ways in which a keyword, a new name and more may follow each other. -/
def newNameOpenings (keyword : String) (more : List Slot) : List (List Slot) :=
  let names := [.name :: more, .name :: .symbol "." :: .name :: more]
  let conditional := names.map ([.keyword "if", .keyword "not", .keyword "exists"] ++ ·)
  (names ++ conditional).map (.keyword keyword :: ·)

/-- The openings that may follow `CREATE TEMP`. -/
def temporaryOpenings : List (List Slot) :=
  newNameOpenings "table" [.keyword "as", .keyword "select"] ++
    newNameOpenings "view" [.keyword "as", .keyword "select"] ++ newNameOpenings "trigger" []

/-- The openings that may follow `CREATE`. -/
def lastingOpenings : List (List Slot) :=
  let index := newNameOpenings "index" [.keyword "on", .name, .symbol "("]
  temporaryOpenings ++ index ++ index.map (.keyword "unique" :: ·) ++
    (newNameOpenings "table" [.keyword "using"]).map (.keyword "virtual" :: ·)

/-- The word `TEMP` or `TEMPORARY`, which may be left out. -/
def readTemporary (tokens : List Token) : Bool × List Token :=
  if startsWith "temp" tokens || startsWith "temporary" tokens then (true, tokens.tail)
  else (false, tokens)

/-- A new table from its keyword to its name, after which columns or a query have to follow. -/
def readNewTable (isTemporary : Bool) (statement : List Token) :
    Except Misread (Create × List Token) := do
  let (ifNotExists, rest) ← readIfNotExists (← readKeyword "table" statement)
  let (table, rest) ← readTableName rest
  if !startsWith "as" rest then let _ ← readSymbol "(" rest
  return (⟨isTemporary, ifNotExists, table⟩, rest)

/-- The opening of a create statement. -/
def readCreate (tokens : List Token) : Except Misread (Create × List Token) := do
  let (isTemporary, statement) := readTemporary (← readKeyword "create" tokens)
  let openings := if isTemporary then temporaryOpenings else lastingOpenings
  (readNewTable isTemporary statement).mapError (Misread.within openings statement)

/-- Passes over a number. -/
def readNumber : List Token → Except Misread (List Token)
  | .integer _ :: rest => .ok rest
  | .decimal .. :: rest => .ok rest
  | tokens => .error (.at tokens)

/-- Passes over a number, which may have a sign. -/
def readSigned : List Token → Except Misread (List Token)
  | .symbol "+" :: rest => readNumber rest
  | .symbol "-" :: rest => readNumber rest
  | tokens => readNumber tokens

/-- Passes over the type of a column: words, and after them perhaps one or two numbers in
parentheses. -/
def readType (tokens : List Token) : Except Misread (List Token) := do
  let rest := tokens.dropWhile (·.label?.isSome)
  match rest with
  | .symbol "(" :: sizes =>
    if tokens.head? = some (.symbol "(") then return tokens
    match ← readSigned sizes with
    | .symbol "," :: second => readSymbol ")" (← readSigned second)
    | rest => readSymbol ")" rest
  | rest => return rest

/-- A column of a new table: its name, after which its type may follow. -/
def readColumn (tokens : List Token) : Except Misread (String × List Token) := do
  let (name, rest) ← readName tokens
  return (name, ← readType rest)

/-- The columns of a new table. A query in their place is not read. -/
def readColumns (tokens : List Token) : Except Misread (List String × List Token) := do
  let rest ← (readSymbol "(" tokens).mapError
    (Misread.within [[.keyword "as", .keyword "select"]] tokens)
  readList readColumn rest

/-- The name that a text gives to a table that is created from a query. -/
def newNameOfText (written : String) : Except Misread String := do
  let tokens := Token.ofText (written ++ " AS")
  let (name, rest) ← if startsWith "if" tokens then throw (.at tokens) else readName tokens
  readEnd (← readKeyword "as" rest)
  return name

end CardBrowser.Sql
