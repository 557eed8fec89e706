/-!
# Binary floating-point numbers of 64 bits

A finite number is kept as a sign, a whole significand and a power of two, so that its value is an
exact rational number. `roundRatio` is the only way in: it picks the nearest number of the format,
and of two that are equally near the one with the even significand. The operations round the exact
result in this way; where there is none, the result is `notANumber`.
-/

namespace CardBrowser

/-- A number of the format. A finite number is `(-1)^negative · significand · 2^exponent`. -/
inductive Binary64 where
  | finite (negative : Bool) (significand : Nat) (exponent : Int)
  | infinite (negative : Bool)
  | notANumber
deriving DecidableEq, Repr, Inhabited

namespace Binary64

/-- The exponent of the numbers next to zero. -/
def leastExponent : Int := -1074

/-- The greatest exponent of a finite number. -/
def greatestExponent : Int := 971

/-- Zero, which has the least exponent. -/
def zero (negative : Bool) : Binary64 :=
  .finite negative 0 leastExponent

/-- The quotient of two natural numbers rounded to a whole number, a half going to the even
neighbour. -/
def nearest (numerator denominator : Nat) : Nat :=
  let quotient := numerator / denominator
  let remainder := numerator % denominator
  if 2 * remainder < denominator then quotient
  else if denominator < 2 * remainder then quotient + 1
  else if quotient % 2 = 0 then quotient else quotient + 1

/-- A ratio multiplied by a power of the base, as a ratio. -/
def scaleRatio (base numerator denominator : Nat) (exponent : Int) : Nat × Nat :=
  if 0 ≤ exponent then (numerator * base.pow exponent.toNat, denominator)
  else (numerator, denominator * base.pow (-exponent).toNat)

/-- The number that every significand is below. -/
def significandLimit : Nat := Nat.pow 2 53

/-- The exponent at which a positive ratio has a significand of 53 bits, or the least exponent
where that is too small. -/
def exponentOf (numerator denominator : Nat) : Int :=
  let guess : Int := (numerator.log2 : Int) - denominator.log2 - 53
  let (n, d) := scaleRatio 2 numerator denominator (-guess)
  let exponent := if n < significandLimit * d then guess else guess + 1
  max exponent leastExponent

/-- The number nearest to a ratio whose denominator is positive; infinity where even the greatest
number is too small. -/
def roundRatio (negative : Bool) (numerator denominator : Nat) : Binary64 :=
  if numerator = 0 then zero negative
  else
    let exponent := exponentOf numerator denominator
    let (n, d) := scaleRatio 2 numerator denominator (-exponent)
    let significand := nearest n d
    let (significand, exponent) :=
      if significand = significandLimit then (significandLimit / 2, exponent + 1)
      else (significand, exponent)
    if greatestExponent < exponent then .infinite negative
    else .finite negative significand exponent

/-- The number nearest to an integer. -/
def ofInt (n : Int) : Binary64 :=
  roundRatio (n < 0) n.natAbs 1

/-- The number nearest to `digits · 10^exponent`. -/
def ofScientific (negative : Bool) (digits : Nat) (exponent : Int) : Binary64 :=
  let (numerator, denominator) := scaleRatio 10 digits 1 exponent
  roundRatio negative numerator denominator

/-- Whether the sign is minus. Zero has a sign too. -/
def isNegative : Binary64 → Bool
  | finite negative _ _ => negative
  | infinite negative => negative
  | notANumber => false

/-- Whether the number is one of the two zeros. -/
def isZero : Binary64 → Bool
  | finite _ significand _ => significand == 0
  | infinite _ => false
  | notANumber => false

/-- The number with the other sign. -/
def neg : Binary64 → Binary64
  | finite negative significand exponent => finite (!negative) significand exponent
  | infinite negative => infinite (!negative)
  | notANumber => notANumber

/-- The magnitude of `significand · 2^exponent` as a ratio. -/
def magnitude (significand : Nat) (exponent : Int) : Nat × Nat :=
  scaleRatio 2 significand 1 exponent

/-- The exact value of a finite number. -/
def toRat? : Binary64 → Option Rat
  | finite negative significand exponent =>
    let (n, d) := magnitude significand exponent
    some (mkRat (if negative then -(n : Int) else n) d)
  | infinite _ => none
  | notANumber => none

/-- A finite number in units of `2^unit`, of which it is a multiple because `unit` is no greater
than its exponent. -/
def inUnits (negative : Bool) (significand : Nat) (exponent unit : Int) : Int :=
  let multiple : Int := (scaleRatio 2 significand 1 (exponent - unit)).1
  if negative then -multiple else multiple

/-- The rounded sum. Two infinities of different signs have none. -/
def add : Binary64 → Binary64 → Binary64
  | finite s m e, finite t k f =>
    let unit := min e f
    let sum := inUnits s m e unit + inUnits t k f unit
    if sum = 0 then zero (s && t)
    else
      let (n, d) := magnitude sum.natAbs unit
      roundRatio (sum < 0) n d
  | infinite s, infinite t => if s = t then infinite s else notANumber
  | infinite s, finite _ _ _ => infinite s
  | finite _ _ _, infinite t => infinite t
  | _, _ => notANumber

/-- The rounded difference. -/
def sub (x y : Binary64) : Binary64 :=
  x.add y.neg

/-- The rounded product. Zero and infinity have none. -/
def mul : Binary64 → Binary64 → Binary64
  | finite s m e, finite t k f =>
    let (a, b) := magnitude m e
    let (c, d) := magnitude k f
    roundRatio (s != t) (a * c) (b * d)
  | notANumber, _ => notANumber
  | _, notANumber => notANumber
  | x, y =>
    if x.isZero || y.isZero then notANumber else infinite (x.isNegative != y.isNegative)

/-- The rounded quotient. Two zeros and two infinities have none. -/
def div : Binary64 → Binary64 → Binary64
  | finite s m e, finite t k f =>
    if k = 0 then (if m = 0 then notANumber else infinite (s != t))
    else
      let (a, b) := magnitude m e
      let (c, d) := magnitude k f
      roundRatio (s != t) (a * d) (b * c)
  | infinite s, finite t _ _ => infinite (s != t)
  | finite s _ _, infinite t => zero (s != t)
  | _, _ => notANumber

end Binary64

end CardBrowser
