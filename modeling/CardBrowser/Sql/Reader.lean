import CardBrowser.Sql.Expr
import CardBrowser.Sql.Reading

/-!
# Reading expressions

The SQL of host programs is read by precedence: `OR`, `AND`, `NOT`, equality with `IS`, `IN`,
`LIKE` and `GLOB`, comparison, addition, multiplication, `COLLATE`, and the unary minus, from the
loosest to the tightest.
-/

namespace CardBrowser.Sql

/-- An integer, a minus sign before it allowed. -/
def readInteger : List Token → Except Misread (Int × List Token)
  | .symbol "-" :: .integer n :: rest => .ok (-n, rest)
  | .symbol "-" :: rest => .error (.at rest)
  | .integer n :: rest => .ok (n, rest)
  | tokens => .error (.at tokens)

/-- The operator of a symbol and its level of precedence. -/
def operator? : String → Option (BinaryOp × Nat)
  | "=" => some (.equal, 4)
  | "<>" => some (.notEqual, 4)
  | "<" => some (.less, 5)
  | "<=" => some (.lessEqual, 5)
  | ">" => some (.greater, 5)
  | ">=" => some (.greaterEqual, 5)
  | "+" => some (.add, 6)
  | "-" => some (.sub, 6)
  | "*" => some (.mul, 7)
  | "/" => some (.div, 7)
  | _ => none

/-- The operator of a keyword and its level of precedence. -/
def wordOperator? (word : String) : Option (BinaryOp × Nat) :=
  match Text.foldText word with
  | "or" => some (.or, 1)
  | "and" => some (.and, 2)
  | "is" => some (.is, 4)
  | _ => none

/-- The function of a name. -/
def function? (name : String) : Option Function :=
  match Text.foldText name with
  | "lower" => some .lower
  | "length" => some .length
  | _ => none

/-- A pattern in which no character is escaped, as one in which the backslash escapes. -/
def escaped (pattern : String) : String :=
  pattern.replace "\\" "\\\\"

mutual

/-- An expression whose operators bind no looser than the level. -/
def readExpr : Nat → Nat → List Token → Except Misread (Expr × List Token)
  | 0, _, _ => .error .unfinished
  | fuel + 1, level, tokens => do
    let (left, rest) ← readOperand fuel tokens
    readOperators fuel level left rest

/-- The operators that follow a left operand, as far as they bind no looser than the level. -/
def readOperators : Nat → Nat → Expr → List Token → Except Misread (Expr × List Token)
  | 0, _, _, _ => .error .unfinished
  | fuel + 1, level, left, tokens =>
    match tokens with
    | .symbol s :: rest =>
      match operator? s with
      | some (op, tightness) =>
        if level ≤ tightness then do
          let (right, rest) ← readExpr fuel (tightness + 1) rest
          readOperators fuel level (.binary op left right) rest
        else .ok (left, tokens)
      | none => .ok (left, tokens)
    | .name word :: rest =>
      match Text.foldText word, wordOperator? word with
      | _, some (op, tightness) =>
        if level ≤ tightness then do
          let (negated, rest) ← if op = .is then readOption "not" [] rest else .ok (false, rest)
          let (right, rest) ← readExpr fuel (tightness + 1) rest
          let test := Expr.binary op left right
          readOperators fuel level (if negated then .not test else test) rest
        else .ok (left, tokens)
      | "not", none =>
        if level ≤ 4 then do
          let (test, rest) ← readTest fuel left rest
          readOperators fuel level (.not test) rest
        else .ok (left, tokens)
      | "collate", none => do
        readOperators fuel level (.noCase left) (← readKeyword "nocase" rest)
      | word, none =>
        if level ≤ 4 && ["in", "glob", "like"].contains word then do
          let (test, rest) ← readTest fuel left tokens
          readOperators fuel level test rest
        else .ok (left, tokens)
    | _ => .ok (left, tokens)

/-- The test of a left operand that begins with `IN`, `GLOB` or `LIKE`. -/
def readTest : Nat → Expr → List Token → Except Misread (Expr × List Token)
  | 0, _, _ => .error .unfinished
  | fuel + 1, left, tokens =>
    if startsWith "in" tokens then do
      let (numbers, rest) ← readList readInteger (← readSymbol "(" tokens.tail)
      return (.inList left numbers, rest)
    else if startsWith "glob" tokens then do
      let (pattern, rest) ← readExpr fuel 5 tokens.tail
      return (.glob left pattern, rest)
    else if startsWith "like" tokens then do
      let (pattern, rest) ← readExpr fuel 5 tokens.tail
      match startsWith "escape" rest, rest.tail, pattern with
      | true, .string "\\" :: rest, _ => return (.like left pattern, rest)
      | true, rest, _ => throw (.at rest)
      | false, _, .string s => return (.like left (.string (escaped s)), rest)
      | false, _, _ => throw (.at tokens)
    else .error (.at tokens)

/-- An expression without operators between its parts. -/
def readOperand : Nat → List Token → Except Misread (Expr × List Token)
  | 0, _ => .error .unfinished
  | fuel + 1, tokens =>
    match tokens with
    | .integer n :: rest => .ok (.integer n, rest)
    | .decimal digits places :: rest => .ok (.decimal digits places, rest)
    | .string s :: rest => .ok (.string s, rest)
    | .placeholder number :: rest => .ok (.placeholder number, rest)
    | .symbol "-" :: rest => do
      let (operand, rest) ← readExpr fuel 8 rest
      return (.negate operand, rest)
    | .symbol "(" :: .name word :: rest =>
      if Text.foldText word = "select" then readSelect fuel rest
      else do
        let (inner, rest) ← readExpr fuel 1 (.name word :: rest)
        return (.paren inner, ← readSymbol ")" rest)
    | .symbol "(" :: rest => do
      let (inner, rest) ← readExpr fuel 1 rest
      return (.paren inner, ← readSymbol ")" rest)
    | .name word :: .symbol "(" :: rest =>
      match Text.foldText word, function? word with
      | _, some function => do
        let (argument, rest) ← readExpr fuel 1 rest
        return (.call function argument, ← readSymbol ")" rest)
      | "nullif", none => do
        let (first, rest) ← readExpr fuel 1 rest
        let (second, rest) ← readExpr fuel 1 (← readSymbol "," rest)
        return (.nullIf first second, ← readSymbol ")" rest)
      | "cast", none => do
        let (operand, rest) ← readExpr fuel 1 rest
        return (.castReal operand, ← readSymbol ")" (← readKeywords ["as", "real"] rest))
      | "not", none => do
        let (operand, rest) ← readExpr fuel 3 (.symbol "(" :: rest)
        return (.not operand, rest)
      | _, none => .error (.unexpected (.symbol "("))
    | .name word :: .symbol "." :: rest => do
      let (qualifier, _) ← readWord [.name word]
      let (name, rest) ← readName rest
      return (.column (some qualifier) name, rest)
    | .quoted qualifier :: .symbol "." :: rest => do
      let (name, rest) ← readName rest
      return (.column (some qualifier) name, rest)
    | .quoted name :: rest => .ok (.column none name, rest)
    | .name word :: rest =>
      match Text.foldText word with
      | "null" => .ok (.null, rest)
      | "not" => do
        let (operand, rest) ← readExpr fuel 3 rest
        return (.not operand, rest)
      | "case" => do
        let (condition, rest) ← readExpr fuel 1 (← readKeyword "when" rest)
        let (first, rest) ← readExpr fuel 1 (← readKeyword "then" rest)
        let (second, rest) ← readExpr fuel 1 (← readKeyword "else" rest)
        return (.choose condition first second, ← readKeyword "end" rest)
      | _ => do
        let (name, rest) ← readWord tokens
        return (.column none name, rest)
    | tokens => .error (.at tokens)

/-- A nested select after its keyword, up to the closing parenthesis. -/
def readSelect : Nat → List Token → Except Misread (Expr × List Token)
  | 0, _ => .error .unfinished
  | fuel + 1, tokens =>
    match tokens with
    | .name word :: .symbol "(" :: .symbol "*" :: .symbol ")" :: rest =>
      if Text.foldText word = "count" then readSource fuel .count (.integer 1) rest
      else .error (.unexpected (.symbol "*"))
    | .name word :: .symbol "(" :: rest =>
      if Text.foldText word = "max" then do
        let (result, rest) ← readExpr fuel 1 rest
        readSource fuel .max result (← readSymbol ")" rest)
      else do
        let (result, rest) ← readExpr fuel 1 tokens
        readSource fuel .first result rest
    | tokens => do
      let (result, rest) ← readExpr fuel 1 tokens
      readSource fuel .first result rest

/-- The table, the alias and the condition of a nested select. -/
def readSource : Nat → Aggregate → Expr → List Token → Except Misread (Expr × List Token)
  | 0, _, _, _ => .error .unfinished
  | fuel + 1, aggregate, result, tokens => do
    let (table, rest) ← readWord (← readKeyword "from" tokens)
    let (shortName, rest) ← readWord rest
    let (condition, rest) ← readExpr fuel 1 (← readKeyword "where" rest)
    return (.select aggregate result table shortName condition, ← readSymbol ")" rest)

end

/-- The fuel that suffices for some tokens: every token is passed at most four times on the way
from one level of the readers to the next. -/
def readerFuel (tokens : List Token) : Nat :=
  4 * tokens.length + 4

/-- An expression. -/
def readCondition (tokens : List Token) : Except Misread (Expr × List Token) :=
  readExpr (readerFuel tokens) 1 tokens

/-- An order term. -/
def readTerm (tokens : List Token) : Except Misread (OrderTerm × List Token) := do
  let (expr, rest) ← readCondition tokens
  let descending := startsWith "desc" rest
  return (⟨expr, descending⟩, if descending || startsWith "asc" rest then rest.tail else rest)

/-- What a text holds, if it holds that and nothing else. -/
def wholeText? {α : Type} (read : List Token → Except Misread (α × List Token))
    (sql : String) : Option α :=
  match read (Token.ofText sql) with
  | .ok (found, []) => some found
  | _ => none

/-- The expression that a text holds. -/
def Expr.ofText? (sql : String) : Option Expr :=
  wholeText? readCondition sql

/-- The terms that the text of an order clause holds. -/
def OrderTerm.ofText? (sql : String) : Option (List OrderTerm) :=
  wholeText? (readSeries readTerm) sql

end CardBrowser.Sql
