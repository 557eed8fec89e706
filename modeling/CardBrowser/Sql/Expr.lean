import CardBrowser.Sql.Value

/-!
# SQL expressions

An expression is kept as it is written, parentheses included, so `Expr.text` is its exact text and
evaluation reads the same tree. The leaf `verbatim` is SQL text of the host program, which is
printed unchanged and is read only when a statement is run.
-/

namespace CardBrowser.Sql

/-- The operators with two operands. -/
inductive BinaryOp where
  | or
  | and
  | equal
  | notEqual
  | is
  | less
  | lessEqual
  | greater
  | greaterEqual
  | add
  | sub
  | mul
  | div
deriving DecidableEq, Repr

/-- How an operator is written. -/
def BinaryOp.symbol : BinaryOp → String
  | or => "OR"
  | and => "AND"
  | equal => "="
  | notEqual => "<>"
  | is => "IS"
  | less => "<"
  | lessEqual => "<="
  | greater => ">"
  | greaterEqual => ">="
  | add => "+"
  | sub => "-"
  | mul => "*"
  | div => "/"

/-- The functions of one value. -/
inductive Function where
  | lower
  | length
deriving DecidableEq, Repr

/-- The name of a function. -/
def Function.name : Function → String
  | lower => "lower"
  | length => "length"

/-- What a nested `SELECT` makes of the rows it finds. -/
inductive Aggregate where
  | first
  | count
  | max
deriving DecidableEq, Repr

/-- An SQL expression. -/
inductive Expr where
  | null
  | integer (n : Int)
  /-- A number with a decimal point: its digits and how many of them stand after the point. -/
  | decimal (digits places : Nat)
  | string (s : String)
  | placeholder (number : Nat)
  | column (qualifier : Option String) (name : String)
  | verbatim (sql : String)
  | paren (inner : Expr)
  | negate (operand : Expr)
  | not (operand : Expr)
  | binary (op : BinaryOp) (left right : Expr)
  | inList (operand : Expr) (numbers : List Int)
  /-- `LIKE` with the backslash as its escape character. -/
  | like (operand pattern : Expr)
  | glob (operand pattern : Expr)
  | choose (condition first second : Expr)
  | castReal (operand : Expr)
  | noCase (operand : Expr)
  | call (function : Function) (argument : Expr)
  | nullIf (first second : Expr)
  | select (aggregate : Aggregate) (result : Expr) (table shortName : String) (condition : Expr)
deriving DecidableEq, Repr, Inhabited

/-- The text of a string literal: between single quotes, a quote inside written twice. -/
def literalText (s : String) : String :=
  "'" ++ String.join (s.toList.map fun c => if c = '\'' then "''" else c.toString) ++ "'"

namespace Expr

/-- The expression as SQL text. -/
def text : Expr → String
  | null => "NULL"
  | integer n => toString n
  | decimal digits places => (Decimal.mk digits (-(places : Int))).positional true
  | string s => literalText s
  | placeholder number => "?" ++ toString number
  | column none name => name
  | column (some qualifier) name => qualifier ++ "." ++ name
  | verbatim sql => sql
  | paren inner => "(" ++ inner.text ++ ")"
  | negate operand => "-" ++ operand.text
  | not operand => "NOT " ++ operand.text
  | binary op left right => left.text ++ " " ++ op.symbol ++ " " ++ right.text
  | inList operand numbers =>
    operand.text ++ " IN (" ++ ", ".intercalate (numbers.map toString) ++ ")"
  | like operand pattern => operand.text ++ " LIKE " ++ pattern.text ++ " ESCAPE '\\'"
  | glob operand pattern => operand.text ++ " GLOB " ++ pattern.text
  | choose condition first second =>
    "CASE WHEN " ++ condition.text ++ " THEN " ++ first.text ++ " ELSE " ++ second.text ++ " END"
  | castReal operand => "CAST(" ++ operand.text ++ " AS REAL)"
  | noCase operand => operand.text ++ " COLLATE NOCASE"
  | call function argument => function.name ++ "(" ++ argument.text ++ ")"
  | nullIf first second => "NULLIF(" ++ first.text ++ ", " ++ second.text ++ ")"
  | select .first result table shortName condition =>
    "(SELECT " ++ result.text ++ " FROM " ++ table ++ " " ++ shortName ++ " WHERE "
      ++ condition.text ++ ")"
  | select .count _ table shortName condition =>
    "(SELECT count(*) FROM " ++ table ++ " " ++ shortName ++ " WHERE " ++ condition.text ++ ")"
  | select .max result table shortName condition =>
    "(SELECT max(" ++ result.text ++ ") FROM " ++ table ++ " " ++ shortName ++ " WHERE "
      ++ condition.text ++ ")"

/-- The greatest number of a placeholder, which is how many values have to be given. -/
def placeholders : Expr → Nat
  | placeholder number => number
  | paren inner => inner.placeholders
  | negate operand => operand.placeholders
  | not operand => operand.placeholders
  | binary _ left right => max left.placeholders right.placeholders
  | inList operand _ => operand.placeholders
  | like operand pattern => max operand.placeholders pattern.placeholders
  | glob operand pattern => max operand.placeholders pattern.placeholders
  | choose condition first second =>
    max condition.placeholders (max first.placeholders second.placeholders)
  | castReal operand => operand.placeholders
  | noCase operand => operand.placeholders
  | call _ argument => argument.placeholders
  | nullIf first second => max first.placeholders second.placeholders
  | select _ result _ _ condition => max result.placeholders condition.placeholders
  | _ => 0

/-- How many levels a number takes: its minus sign is a level of its own. -/
def numberHeight (n : Int) : Nat :=
  if n < 0 then 2 else 1

/-- How many levels the operators of an expression make. Parentheses are no level. A list of one
number is compared as a signed number. -/
def height : Expr → Nat
  | integer n => numberHeight n
  | column (some _) _ => 2
  | paren inner => inner.height
  | negate operand => operand.height + 1
  | not operand => operand.height + 1
  | binary _ left right => max left.height right.height + 1
  | inList operand [n] => max operand.height (numberHeight n + 1) + 1
  | inList operand numbers => max operand.height ((numbers.map numberHeight).foldl max 0) + 1
  | like operand pattern => max operand.height pattern.height + 1
  | glob operand pattern => max operand.height pattern.height + 1
  | choose condition first second => max condition.height (max first.height second.height) + 1
  | castReal operand => operand.height + 1
  | noCase operand => operand.height + 1
  | call _ argument => argument.height + 1
  | nullIf first second => max first.height second.height + 1
  | select .max result _ _ condition => max (result.height + 1) condition.height + 1
  | select _ result _ _ condition => max result.height condition.height + 1
  | _ => 1

/-- The tables that nested selects read. -/
def tables : Expr → List String
  | paren inner => inner.tables
  | negate operand => operand.tables
  | not operand => operand.tables
  | binary _ left right => left.tables ++ right.tables
  | inList operand _ => operand.tables
  | like operand pattern => operand.tables ++ pattern.tables
  | glob operand pattern => operand.tables ++ pattern.tables
  | choose condition first second => condition.tables ++ (first.tables ++ second.tables)
  | castReal operand => operand.tables
  | noCase operand => operand.tables
  | call _ argument => argument.tables
  | nullIf first second => first.tables ++ second.tables
  | select _ result table _ condition => table :: (result.tables ++ condition.tables)
  | _ => []

/-- The text comparison that an expression asks for when rows are put in order by it. -/
def collation : Expr → Collation
  | noCase _ => .noCase
  | paren inner => inner.collation
  | _ => .binary

end Expr

/-- An item of an order clause. -/
structure OrderTerm where
  expr : Expr
  descending : Bool := false
deriving DecidableEq, Repr

end CardBrowser.Sql
