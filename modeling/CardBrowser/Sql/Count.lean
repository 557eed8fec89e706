import CardBrowser.Sql.FromClause

/-!
# Statements that count rows

Such a statement counts the rows of one table, or the combinations of rows of several tables, that
satisfy its conditions. Groups and set operations are not read.
-/

namespace CardBrowser.Sql

/-- A statement that counts rows. -/
structure Count where
  items : List FromItem
  condition : Expr
  order : List OrderTerm
  /-- How many answers are wanted at most, if that is said and is no negative number. -/
  limit : Option Nat
  /-- How many answers are left out. -/
  offset : Nat
deriving DecidableEq, Repr

/-- Whether the number of rows is answered at all; it is the first and only answer. -/
def Count.answers (count : Count) : Bool :=
  count.limit != some 0 && count.offset == 0

/-- A bound on the number of answers; there is none if the number is negative. -/
def bound (n : Int) : Option Nat :=
  if n < 0 then none else some n.toNat

/-- How many answers are wanted and how many are left out, which may be left unsaid. -/
def readLimit (tokens : List Token) : Except Misread ((Option Nat × Nat) × List Token) := do
  if !startsWith "limit" tokens then return ((none, 0), tokens)
  let (first, rest) ← readInteger tokens.tail
  match rest with
  | .symbol "," :: rest =>
    let (limit, rest) ← readInteger rest
    return ((bound limit, first.toNat), rest)
  | _ =>
    if !startsWith "offset" rest then return ((bound first, 0), rest)
    let (offset, rest) ← readInteger rest.tail
    return ((bound first, offset.toNat), rest)

/-- The clauses that are not read. They have to come before the order. -/
def laterOpenings : List (List Slot) :=
  [[.keyword "group", .keyword "by"], [.keyword "having"],
   [.keyword "union", .keyword "all", .keyword "select"], [.keyword "union", .keyword "select"],
   [.keyword "intersect", .keyword "select"], [.keyword "except", .keyword "select"]]

/-- Whether tokens begin a clause, so that a statement is not over before them. -/
def continues (tokens : List Token) : Bool :=
  tokens.head?.any fun token =>
    isJoinWord token || laterOpenings.any fun opening => breakOff opening [token]

/-- A counting statement without its end. -/
def readCount (tokens : List Token) : Except Misread (Count × List Token) := do
  let tokens ← readKeywords ["select", "count"] tokens
  let tokens ← readSymbol ")" (← readSymbol "*" (← readSymbol "(" tokens))
  let tokens ← readKeyword "from" tokens
  let (items, rest) ← readFrom (3 * tokens.length + 3) tokens
  let (condition, rest) ←
    if startsWith "where" rest then readCondition rest.tail else .ok (.integer 1, rest)
  let (order, rest) ←
    if startsWith "order" rest then readSeries readTerm (← readKeyword "by" rest.tail)
    else .ok ([], rest)
  let ((limit, offset), rest) ← readLimit rest
  return (⟨items, condition, order, limit, offset⟩, rest)

/-- The counting statement that a text is. -/
def Count.ofText (sql : String) : Except Misread Count := do
  let (count, rest) ← readCount (Token.ofText sql)
  (readEnd rest).mapError (Misread.within (if count.order = [] then laterOpenings else []) rest)
  return count

end CardBrowser.Sql
