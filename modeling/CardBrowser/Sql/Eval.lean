import CardBrowser.Sql.Pattern
import CardBrowser.Sql.Reader
import CardBrowser.Sql.Scope

/-!
# Evaluation of SQL expressions

An expression goes through three steps. `Expr.expand` reads the verbatim text in it. `Expr.check`
resolves every name before any row is looked at, so an unknown name is an error even where no row
is found. `Expr.eval` gives the value in the rows at hand; it takes an unresolved name for NULL,
which a checked expression does not hold.

Values are compared as they are stored. No column of the tables meets a literal of another kind
than its own, except for the empty text, which no number equals.
-/

namespace CardBrowser.Sql.Expr

/-- Puts what verbatim SQL text says in its place. -/
def expand : Expr → Except Rejection Expr
  | verbatim sql =>
    match ofText? sql with
    | some expr => .ok expr
    | none => .error (.unreadable sql)
  | paren inner => do return paren (← inner.expand)
  | negate operand => do return negate (← operand.expand)
  | not operand => do return not (← operand.expand)
  | binary op left right => do return binary op (← left.expand) (← right.expand)
  | inList operand numbers => do return inList (← operand.expand) numbers
  | like operand pattern => do return like (← operand.expand) (← pattern.expand)
  | glob operand pattern => do return glob (← operand.expand) (← pattern.expand)
  | choose condition first second => do
    return choose (← condition.expand) (← first.expand) (← second.expand)
  | castReal operand => do return castReal (← operand.expand)
  | noCase operand => do return noCase (← operand.expand)
  | call function argument => do return call function (← argument.expand)
  | nullIf first second => do return nullIf (← first.expand) (← second.expand)
  | select aggregate result table shortName condition => do
    return select aggregate (← result.expand) table shortName (← condition.expand)
  | leaf => .ok leaf

/-- Resolves the names of an expression. -/
def check (tables : Tables) : Expr → Scope → Except Rejection Unit
  | column qualifier name, scope => (scope.resolve qualifier name).map fun _ => ()
  | paren inner, scope => inner.check tables scope
  | negate operand, scope => operand.check tables scope
  | not operand, scope => operand.check tables scope
  | binary _ left right, scope => do
    left.check tables scope
    right.check tables scope
  | inList operand _, scope => operand.check tables scope
  | like operand pattern, scope => do
    operand.check tables scope
    pattern.check tables scope
  | glob operand pattern, scope => do
    operand.check tables scope
    pattern.check tables scope
  | choose condition first second, scope => do
    condition.check tables scope
    first.check tables scope
    second.check tables scope
  | castReal operand, scope => operand.check tables scope
  | noCase operand, scope => operand.check tables scope
  | call _ argument, scope => argument.check tables scope
  | nullIf first second, scope => do
    first.check tables scope
    second.check tables scope
  | select _ result table shortName condition, scope =>
    match tables table with
    | none => .error (.noSuchTable table)
    | some source => do
      result.check tables ([(shortName, source.sample)] :: scope)
      condition.check tables ([(shortName, source.sample)] :: scope)
  | _, _ => .ok ()

end Expr

/-- The value of an operator. -/
def BinaryOp.apply : BinaryOp → Value → Value → Value
  | or, a, b => Value.ofBool? (or? a.truth? b.truth?)
  | and, a, b => Value.ofBool? (and? a.truth? b.truth?)
  | equal, a, b => Value.comparison (· == .eq) a b
  | notEqual, a, b => Value.comparison (· != .eq) a b
  | is, a, b => Value.ofBool (a.same b)
  | less, a, b => Value.comparison (· == .lt) a b
  | lessEqual, a, b => Value.comparison (· != .gt) a b
  | greater, a, b => Value.comparison (· == .gt) a b
  | greaterEqual, a, b => Value.comparison (· != .lt) a b
  | add, a, b => a.add b
  | sub, a, b => a.sub b
  | mul, a, b => a.mul b
  | div, a, b => a.div b

/-- The value of a function. -/
def Function.apply : Function → Value → Value
  | lower, a => a.lower
  | length, a => a.length

/-- Whether a text matches a pattern; NULL if either is. -/
def patternValue (holds : String → String → Bool) (operand pattern : Value) : Value :=
  match operand.asText?, pattern.asText? with
  | some text, some pattern => Value.ofBool (holds text pattern)
  | _, _ => .null

/-- Whether a value is one of the numbers; NULL if the value is. -/
def memberValue (operand : Value) (numbers : List Int) : Value :=
  match operand with
  | .null => .null
  | value => Value.ofBool (numbers.any fun n => value.same (.integer n))

/-- The greatest of some values; NULL if there is no other one. -/
def greatest (values : List Value) : Value :=
  values.foldl (fun best value => if value.order .binary best == .gt then value else best) .null

/-- What a nested select makes of the results of its rows. -/
def Aggregate.apply : Aggregate → List Value → Value
  | first, results => results.headD .null
  | count, results => .integer results.length
  | max, results => greatest results

/-- The value of a placeholder; one that no value was given for is NULL. -/
def parameter (parameters : List Value) (number : Nat) : Value :=
  if number = 0 then .null else (parameters.getD (number - 1) .null).bound

/-- The value of an expression in the rows at hand. -/
def Expr.eval (tables : Tables) (parameters : List Value) : Expr → Scope → Value
  | null, _ => .null
  | integer n, _ => .integer n
  | decimal digits places, _ => .real (Binary64.ofDecimal false digits (-(places : Int)))
  | string s, _ => .text s
  | placeholder number, _ => parameter parameters number
  | column qualifier name, scope => (scope.resolve qualifier name).toOption.getD .null
  | verbatim _, _ => .null
  | paren inner, scope => inner.eval tables parameters scope
  | negate operand, scope => (operand.eval tables parameters scope).negate
  | not operand, scope =>
    Value.ofBool? ((operand.eval tables parameters scope).truth?.map (!·))
  | binary op left right, scope =>
    op.apply (left.eval tables parameters scope) (right.eval tables parameters scope)
  | inList operand numbers, scope => memberValue (operand.eval tables parameters scope) numbers
  | like operand pattern, scope =>
    patternValue Sql.like (operand.eval tables parameters scope)
      (pattern.eval tables parameters scope)
  | glob operand pattern, scope =>
    patternValue Sql.glob (operand.eval tables parameters scope)
      (pattern.eval tables parameters scope)
  | choose condition first second, scope =>
    if (condition.eval tables parameters scope).truth? = some true then
      first.eval tables parameters scope
    else second.eval tables parameters scope
  | castReal operand, scope => (operand.eval tables parameters scope).castReal
  | noCase operand, scope => operand.eval tables parameters scope
  | call function argument, scope => function.apply (argument.eval tables parameters scope)
  | nullIf first second, scope =>
    (first.eval tables parameters scope).nullIf (second.eval tables parameters scope)
  | select aggregate result table shortName condition, scope =>
    let frames := (Tables.rows tables table).map fun row => [(shortName, row)] :: scope
    let found := frames.filter fun frames =>
      (condition.eval tables parameters frames).truth? == some true
    aggregate.apply (found.map fun frames => result.eval tables parameters frames)

/-! ## Columns -/

variable {tables : Tables} {parameters : List Value} {scope : Scope} {qualifier : Option String}
  {name : String} {value : Value}

/-- The value of a column is what its name is resolved to. -/
theorem Expr.eval_of_resolve (h : scope.resolve qualifier name = .ok value) :
    (column qualifier name).eval tables parameters scope = value := by
  rw [eval, h]
  rfl

/-- A column passes the check if its name is resolved. -/
theorem Expr.check_of_resolve (h : scope.resolve qualifier name = .ok value) :
    (column qualifier name).check tables scope = .ok () := by
  rw [check, h]
  rfl

end CardBrowser.Sql
