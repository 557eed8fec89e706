import CardBrowser.Sql.Reader
import CardBrowser.Sql.TableName

/-!
# The tables of a statement

A `FROM` clause names tables, which are separated by commas or by `JOIN`; a join may have a
condition of its own, and tables may be put in parentheses. Natural joins and nested selects are
not read.
-/

namespace CardBrowser.Sql

/-- What a join does with a row that finds no partner: it may keep a row of the tables before it, or
one of the table that is joined to them. -/
structure Join where
  keepsEarlier : Bool := false
  keepsNext : Bool := false
deriving DecidableEq, Repr

/-- A table of a `FROM` clause. -/
structure FromItem where
  table : TableName
  /-- What a table with computed rows is given. -/
  arguments : Option (List Expr) := none
  shortName : Option String := none
  /-- The index that is asked for. -/
  index : Option String := none
  /-- How the table is joined to those before it, and under which conditions. -/
  join : Join := {}
  conditions : List Expr := []
deriving DecidableEq, Repr

/-- The name by which the statement knows a table. -/
def FromItem.name (item : FromItem) : String :=
  item.shortName.getD item.table.name

/-- A table in parentheses under an alias, which takes the place of the one within; an index is not
asked for any more. -/
def FromItem.called (shortName : String) (item : FromItem) : FromItem :=
  { item with shortName := some shortName, index := none }

/-- An alias, which may be left out. -/
def readAlias (tokens : List Token) : Except Misread (Option String × List Token) :=
  if startsWith "as" tokens then
    (readName tokens.tail).map fun (name, rest) => (some name, rest)
  else
    match tokens.head?.bind Token.label? with
    | some name => .ok (some name, tokens.tail)
    | none => .ok (none, tokens)

/-- What a table with computed rows is given, in parentheses that may be left out. -/
def readArguments : List Token → Except Misread (Option (List Expr) × List Token)
  | .symbol "(" :: .symbol ")" :: rest => .ok (some [], rest)
  | .symbol "(" :: rest =>
    (readList readCondition rest).map fun (arguments, rest) => (some arguments, rest)
  | rest => .ok (none, rest)

/-- The join of the words before `JOIN`. -/
def Join.ofWords? (words : List Token) : Option Join :=
  let has (word : String) : Bool := words.any (·.isKeyword word)
  let earlier := has "left" || has "full"
  let next := has "right" || has "full"
  let isInner := has "inner" || has "cross"
  if has "natural" || (earlier || next) && isInner || has "outer" && !(earlier || next) then none
  else some ⟨earlier, next⟩

/-- Whether a token is a word that goes before `JOIN`. -/
def isJoinWord : Token → Bool
  | .name word => joinWords.contains (Text.foldText word)
  | _ => false

/-- Passes over what joins one table to the next, a comma or `JOIN` with the words before it; there
may be no next table. -/
def readJoin (tokens : List Token) : Except Misread (Option Join × List Token) :=
  match tokens with
  | .symbol "," :: rest => .ok (some {}, rest)
  | _ =>
    let rest := tokens.dropWhile isJoinWord
    if rest.isEmpty && !tokens.isEmpty then .error .unfinished
    else if startsWith "join" rest then
      match Join.ofWords? (tokens.takeWhile isJoinWord) with
      | some join => .ok (some join, rest.tail)
      | none => .error (.at tokens)
    else .ok (none, tokens)

/-- The index that is asked for, or the refusal of any, which may be left out. -/
def readIndex (tokens : List Token) : Except Misread (Option String × List Token) := do
  if startsWith "indexed" tokens then
    let (index, rest) ← readName (← readKeyword "by" tokens.tail)
    return (some index, rest)
  else if startsWith "not" tokens then return (none, ← readKeyword "indexed" tokens.tail)
  else return (none, tokens)

/-- The condition of a join, which may be left out. -/
def readOn (tokens : List Token) : Except Misread (List Expr × List Token) :=
  if startsWith "on" tokens then
    (readCondition tokens.tail).map fun (condition, rest) => ([condition], rest)
  else .ok ([], tokens)

/-- A table with more conditions. -/
def FromItem.on (conditions : List Expr) (item : FromItem) : FromItem :=
  { item with conditions := item.conditions ++ conditions }

/-- The tables that a join adds. Where it keeps rows it has to add a single table. -/
def joined? (join : Join) (conditions : List Expr) : List FromItem → Option (List FromItem)
  | [item] => some [{ item.on conditions with join }]
  | items =>
    if join = {} then some (items.dropLast ++ items.getLast?.toList.map (·.on conditions)) else none

mutual

/-- A table, or tables in parentheses. -/
def readFromItem : Nat → List Token → Except Misread (List FromItem × List Token)
  | 0, _ => .error .unfinished
  | fuel + 1, tokens =>
    match tokens with
    | .symbol "(" :: rest => do
      let (items, rest) ← readFrom fuel rest
      let (shortName, rest) ← readAlias (← readSymbol ")" rest)
      return ((shortName.map fun name => items.map (·.called name)).getD items, rest)
    | _ => do
      let (table, rest) ← readTableName tokens
      let (arguments, rest) ← readArguments rest
      let (shortName, rest) ← readAlias rest
      let (index, rest) ← if arguments.isNone then readIndex rest else .ok (none, rest)
      return ([⟨table, arguments, shortName, index, {}, []⟩], rest)

/-- The tables of a statement. -/
def readFrom : Nat → List Token → Except Misread (List FromItem × List Token)
  | 0, _ => .error .unfinished
  | fuel + 1, tokens => do
    let (first, rest) ← readFromItem fuel tokens
    match ← readOn rest with
    | ([], rest) => readJoined fuel first rest
    | _ => throw .joinless

/-- The tables that are joined to those before them. -/
def readJoined :
    Nat → List FromItem → List Token → Except Misread (List FromItem × List Token)
  | 0, _, _ => .error .unfinished
  | fuel + 1, items, tokens => do
    match ← readJoin tokens with
    | (none, rest) => return (items, rest)
    | (some join, rest) =>
      let (next, rest) ← readFromItem fuel rest
      let (conditions, rest) ← readOn rest
      match joined? join conditions next with
      | some next => readJoined fuel (items ++ next) rest
      | none => throw (.at tokens)

end

end CardBrowser.Sql
