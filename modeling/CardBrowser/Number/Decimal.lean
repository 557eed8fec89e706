import CardBrowser.Number.Binary64

/-!
# Decimal text of floating-point numbers

`Decimal.shortest` finds the fewest significant digits that read back as the same number, and
`Decimal.rounded` a fixed count of them. The two texts of a number differ only in where a power of
ten is written out and in whether a whole number keeps a decimal point.
-/

namespace CardBrowser

/-- The positive decimal `digits · 10^exponent`. -/
structure Decimal where
  digits : Nat
  exponent : Int
deriving DecidableEq, Repr, Inhabited

namespace Decimal

/-- The decimal as a ratio. -/
def ratio (decimal : Decimal) : Nat × Nat :=
  Binary64.scaleRatio 10 decimal.digits 1 decimal.exponent

/-- The greatest `e` with `10^e ≤ numerator / denominator`, for a positive ratio. -/
def leadingExponent (numerator denominator : Nat) : Int :=
  let guess : Int := ((numerator.log2 : Int) - denominator.log2) * 30103 / 100000
  let fits (e : Int) : Bool :=
    let (n, d) := Binary64.scaleRatio 10 numerator denominator (-e)
    d ≤ n
  if fits (guess + 1) then guess + 1 else if fits guess then guess else guess - 1

/-- Drops zeros at the end of the digits. -/
def trimZeros : Nat → Decimal → Decimal
  | 0, decimal => decimal
  | fuel + 1, decimal =>
    if decimal.digits % 10 = 0 ∧ decimal.digits ≠ 0 then
      trimZeros fuel ⟨decimal.digits / 10, decimal.exponent + 1⟩
    else decimal

/-- A positive ratio on the decimal grid of `10^exponent`: the whole part of the quotient, and the
ratio that is left over. -/
def onGrid (numerator denominator : Nat) (exponent : Int) : Nat × Nat × Nat :=
  let (n, d) := Binary64.scaleRatio 10 numerator denominator (-exponent)
  (n / d, n % d, d)

/-- The ratio rounded to `count` significant digits, a half going away from zero. -/
def rounded (count : Nat) (numerator denominator : Nat) : Decimal :=
  let exponent := leadingExponent numerator denominator - count + 1
  let (quotient, remainder, d) := onGrid numerator denominator exponent
  trimZeros count ⟨if d ≤ 2 * remainder then quotient + 1 else quotient, exponent⟩

/-- The neighbour of `significand · 2^exponent` on the grid of `count` digits that reads back as
it; of two such neighbours the nearer one, and the even one if both are equally near. -/
def neighbour? (significand : Nat) (exponent : Int) (count : Nat) : Option Decimal :=
  let (numerator, denominator) := Binary64.magnitude significand exponent
  let place := leadingExponent numerator denominator - count + 1
  let (quotient, remainder, d) := onGrid numerator denominator place
  let readsBack (digits : Nat) : Bool :=
    let (n, m) := Decimal.ratio ⟨digits, place⟩
    Binary64.roundRatio false n m == .finite false significand exponent
  let nearer := if 2 * remainder < d then quotient else if d < 2 * remainder then quotient + 1
    else if quotient % 2 = 0 then quotient else quotient + 1
  let farther := if nearer = quotient then quotient + 1 else quotient
  if readsBack nearer then some ⟨nearer, place⟩
  else if readsBack farther then some ⟨farther, place⟩
  else none

/-- The fewest digits that read back as the positive number `significand · 2^exponent`. Seventeen
digits always suffice. -/
def shortest (significand : Nat) (exponent : Int) : Decimal :=
  let found := (List.range 17).findSome? fun i => neighbour? significand exponent (i + 1)
  trimZeros 17 (found.getD ⟨significand, exponent⟩)

/-- How many digits a decimal has. -/
def length (decimal : Decimal) : Nat :=
  (Nat.toDigits 10 decimal.digits).length

/-- The decimal without an exponent: zeros fill the places up to the decimal point. -/
def positional (decimal : Decimal) (pointAlways : Bool) : String :=
  let digits := Nat.toDigits 10 decimal.digits
  if 0 ≤ decimal.exponent then
    String.ofList (digits ++ List.replicate decimal.exponent.toNat '0') ++
      (if pointAlways then ".0" else "")
  else
    let places := (-decimal.exponent).toNat
    let padded := List.replicate (places + 1 - digits.length) '0' ++ digits
    let whole := padded.take (padded.length - places)
    String.ofList whole ++ "." ++ String.ofList (padded.drop (padded.length - places))

/-- The decimal with one digit before the point and a power of ten after the letter `e`. -/
def scientific (decimal : Decimal) : String :=
  let digits := Nat.toDigits 10 decimal.digits
  let power := decimal.exponent + (digits.length : Int) - 1
  let mantissa := match digits with
    | [] => "0"
    | [digit] => digit.toString
    | digit :: rest => digit.toString ++ "." ++ String.ofList rest
  mantissa ++ "e" ++ toString power

end Decimal

namespace Binary64

/-- A minus sign where one is due. -/
def signText (negative : Bool) : String :=
  if negative then "-" else ""

/-- The number in full: its shortest digits without an exponent, and without a decimal point if it
is whole. -/
def plainText : Binary64 → String
  | notANumber => "NaN"
  | infinite negative => signText negative ++ "inf"
  | finite negative 0 _ => signText negative ++ "0"
  | finite negative (m + 1) exponent =>
    signText negative ++ (Decimal.shortest (m + 1) exponent).positional false

/-- The number as JSON writes it: its shortest digits, positional from `1e-5` up to `1e16`
exclusive, with a decimal point even if it is whole, and with a power of ten otherwise. -/
def jsonText : Binary64 → String
  | notANumber => "null"
  | infinite _ => "null"
  | finite negative 0 _ => signText negative ++ "0.0"
  | finite negative (m + 1) exponent =>
    let decimal := Decimal.shortest (m + 1) exponent
    let point := (decimal.length : Int) + decimal.exponent
    signText negative ++
      (if -5 < point ∧ point ≤ 16 then decimal.positional true else decimal.scientific)

end Binary64

end CardBrowser
