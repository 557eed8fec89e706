import CardBrowser.Number.Decimal
import CardBrowser.Number.DoubleDouble
import CardBrowser.Text.Ascii

/-!
# SQL values

A value is NULL, a number or a text. `Value.order` is the order of `ORDER BY`: NULL, then numbers
by their exact value, then texts in the order of their UTF-8 bytes, which is that of their code
points. Arithmetic on integers goes over to floating point where the result needs more than 64
bits.
-/

namespace CardBrowser.Sql

/-- An SQL value. -/
inductive Value where
  | null
  | integer (n : Int)
  | real (x : Binary64)
  | text (s : String)
deriving DecidableEq, Repr, Inhabited

/-- How two texts are compared. -/
inductive Collation where
  | binary
  | noCase
deriving DecidableEq, Repr

/-- The characters before the first NUL, which is where pattern matching takes a text to end. -/
def beforeNul (text : List Char) : List Char :=
  text.takeWhile (· ≠ '\x00')

namespace Collation

/-- What `noCase` compares: the letters before a NUL without their case, and then the length of
the text in bytes, which decides nothing unless there is a NUL. -/
def noCaseKey (s : String) : String × Nat :=
  (String.ofList ((beforeNul s.toList).map Text.foldCase), s.utf8ByteSize)

/-- The order of two texts. -/
def order : Collation → String → String → Ordering
  | binary, s, t => compare s t
  | noCase, s, t =>
    (compare (noCaseKey s).1 (noCaseKey t).1).then (compare (noCaseKey s).2 (noCaseKey t).2)

end Collation

namespace Value

/-- The place of a number on the line from minus to plus infinity: its side, which is zero for a
finite number, and its value. -/
def place : Binary64 → Int × Rat
  | .infinite true => (-1, 0)
  | .infinite false => (1, 0)
  | x => (0, x.toRat?.getD 0)

/-- The order of two places. -/
def placeOrder (p q : Int × Rat) : Ordering :=
  (compare p.1 q.1).then (compareOfLessAndEq p.2 q.2)

/-- The kind of a value as a rank: NULL, number, text. -/
def rank : Value → Nat
  | null => 0
  | integer _ => 1
  | real _ => 1
  | text _ => 2

/-- The place of a number. -/
def numberPlace : Value → Int × Rat
  | integer n => (0, n)
  | real x => place x
  | _ => (0, 0)

/-- The order of two values. -/
def order (collation : Collation) : Value → Value → Ordering
  | text s, text t => collation.order s t
  | a, b => (compare a.rank b.rank).then (placeOrder a.numberPlace b.numberPlace)

/-- The truth values: one and zero. -/
def ofBool (truth : Bool) : Value :=
  integer (if truth then 1 else 0)

/-- A truth value or NULL. -/
def ofBool? : Option Bool → Value
  | some truth => ofBool truth
  | none => null

/-- The digits at the beginning of some characters and what follows them. -/
def leadingDigits (characters : List Char) : List Char × List Char :=
  (characters.takeWhile Text.isDigit, characters.dropWhile Text.isDigit)

/-- The value of the digits of a power of ten. One of more than five digits counts as 10000, which
is beyond the range of any number. -/
def powerValue (digits : List Char) : Nat :=
  digits.foldl
    (fun power digit =>
      if power < 10000 then 10 * power + (digit.toNat - '0'.toNat) else 10000) 0

/-- The power of ten at the beginning of some characters; zero if there is none. -/
def leadingPower : List Char → Int
  | c :: rest =>
    if c = 'e' ∨ c = 'E' then
      match rest with
      | '-' :: rest => -(powerValue (leadingDigits rest).1 : Int)
      | '+' :: rest => powerValue (leadingDigits rest).1
      | rest => powerValue (leadingDigits rest).1
    else 0
  | [] => 0

/-- As many digits as a word of 64 bits has room for, and how many are left. -/
def significantDigits (word : Nat) : List Char → Nat × Nat
  | [] => (word, 0)
  | digit :: rest =>
    if 1844674407370955160 ≤ word then (word, rest.length + 1)
    else significantDigits (10 * word + (digit.toNat - '0'.toNat)) rest

/-- The number written by the longest part at the beginning of a text that is a decimal number;
zero if there is no such part. Digits for which a word of 64 bits has no room count as zeros. -/
def leadingReal (characters : List Char) : Binary64 :=
  let unsigned (negative : Bool) (rest : List Char) : Binary64 :=
    let (whole, rest) := leadingDigits rest
    let (fraction, rest) := match rest with
      | '.' :: rest => leadingDigits rest
      | rest => ([], rest)
    if whole.isEmpty && fraction.isEmpty then Binary64.zero false
    else
      let (word, dropped) := significantDigits 0 whole
      let (word, unused) := significantDigits word fraction
      let exponent : Int := (dropped : Int) - (fraction.length - unused : Nat) + leadingPower rest
      Binary64.ofDecimal negative word exponent
  match characters.dropWhile fun c => c = ' ' ∨ ('\t' ≤ c ∧ c ≤ '\r') with
  | '-' :: rest => unsigned true rest
  | '+' :: rest => unsigned false rest
  | rest => unsigned false rest

/-- `CAST(value AS REAL)`. -/
def castReal : Value → Value
  | null => null
  | integer n => real (Binary64.ofInt n)
  | real x => real x
  | text s => real (leadingReal s.toList)

/-- The text of a floating-point number: fifteen significant digits, with a decimal point, and
with a power of ten of two digits or more where it is below -4 or above 14. -/
def realText : Binary64 → String
  | .notANumber => "NaN"
  | .infinite negative => Binary64.signText negative ++ "Inf"
  | .finite _ 0 _ => "0.0"
  | .finite negative (m + 1) exponent =>
    let (numerator, denominator) := Binary64.magnitude (m + 1) exponent
    let decimal := Decimal.rounded 15 numerator denominator
    let digits := Nat.toDigits 10 decimal.digits
    let power := decimal.exponent + (digits.length : Int) - 1
    Binary64.signText negative ++
      (if -4 ≤ power ∧ power ≤ 14 then decimal.positional true
       else
        let powerDigits := Nat.toDigits 10 power.natAbs
        String.ofList (digits.take 1) ++ "." ++
          (if digits.length = 1 then "0" else String.ofList (digits.drop 1)) ++
          (if power < 0 then "e-" else "e+") ++
          String.ofList (List.replicate (2 - powerDigits.length) '0' ++ powerDigits))

/-- A value seen as text, as pattern matching sees it; NULL has none. -/
def asText? : Value → Option String
  | null => none
  | integer n => some (toString n)
  | real x => some (realText x)
  | text s => some s

/-- Whether a value counts as true; NULL is neither true nor false. -/
def truth? : Value → Option Bool
  | null => none
  | integer n => some (n != 0)
  | real x => some !x.isZero
  | text s => some !(leadingReal s.toList).isZero

/-- The value as a floating-point number; a text by the number it begins with. -/
def asReal? (value : Value) : Option Binary64 :=
  match value.castReal with
  | real x => some x
  | _ => none

/-- A floating-point number as a value; NULL if it is not a number. -/
def ofReal : Binary64 → Value
  | .notANumber => null
  | x => real x

/-- The value that a placeholder takes. -/
def bound : Value → Value
  | real x => ofReal x
  | value => value

/-- The quotient of two floating-point numbers; NULL if the divisor is zero. -/
def divReal (x y : Binary64) : Value :=
  if y.isZero then null else ofReal (x.div y)

/-- An operation on numbers. On two integers it is exact where the result exists and fits in 64
bits; otherwise it is the operation on floating-point numbers, and NULL if an operand is or if the
exact result does not exist. -/
def arithmetic (exact : Int → Int → Option Int) (onReals : Binary64 → Binary64 → Value) :
    Value → Value → Value
  | integer m, integer n =>
    match exact m n with
    | some k => if Text.isInt64 k then integer k else onReals (Binary64.ofInt m) (Binary64.ofInt n)
    | none => null
  | a, b =>
    match a.asReal?, b.asReal? with
    | some x, some y => onReals x y
    | _, _ => null

/-- Addition. -/
def add : Value → Value → Value :=
  arithmetic (fun m n => some (m + n)) fun x y => ofReal (x.add y)

/-- Subtraction. -/
def sub : Value → Value → Value :=
  arithmetic (fun m n => some (m - n)) fun x y => ofReal (x.sub y)

/-- Multiplication. -/
def mul : Value → Value → Value :=
  arithmetic (fun m n => some (m * n)) fun x y => ofReal (x.mul y)

/-- Division; on integers the quotient is cut toward zero, and division by zero is NULL. -/
def div : Value → Value → Value :=
  arithmetic (fun m n => if n = 0 then none else some (Int.tdiv m n)) divReal

/-- Negation. -/
def negate (value : Value) : Value :=
  sub (integer 0) value

/-- `IS`: equality under which NULL equals NULL. -/
def same (a b : Value) : Bool :=
  order .binary a b == .eq

/-- A comparison, which is NULL if an operand is. -/
def comparison (holds : Ordering → Bool) : Value → Value → Value
  | null, _ => null
  | _, null => null
  | a, b => ofBool (holds (order .binary a b))

/-- `NULLIF`: NULL where the two values are equal, and the first one otherwise. -/
def nullIf (a b : Value) : Value :=
  match comparison (· == .eq) a b with
  | integer 1 => null
  | _ => a

/-- The letters A to Z of a text in lower case. -/
def lower (value : Value) : Value :=
  match value.asText? with
  | some s => text (Text.foldText s)
  | none => null

/-- How many characters a text has before the first NUL. -/
def length (value : Value) : Value :=
  match value.asText? with
  | some s => integer (beforeNul s.toList).length
  | none => null

end Value

/-- Conjunction of truth values of which either may be unknown. -/
def and? : Option Bool → Option Bool → Option Bool
  | some false, _ => some false
  | _, some false => some false
  | some true, some true => some true
  | _, _ => none

/-- Disjunction of truth values of which either may be unknown. -/
def or? : Option Bool → Option Bool → Option Bool
  | some true, _ => some true
  | _, some true => some true
  | some false, some false => some false
  | _, _ => none

end CardBrowser.Sql
