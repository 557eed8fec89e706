import CardBrowser.Number.Binary64

/-!
# Pairs of floating-point numbers

A pair of numbers stands for their exact sum, the second being small beside the first, and so has
room for about twice as many digits as one number. `Binary64.ofDecimal` reads a decimal by
multiplying such a pair by powers of ten. The result is close to the decimal and mostly, though not
always, the number nearest to it.
-/

namespace CardBrowser

namespace Binary64

/-- The number without the last 26 bits of its significand. The product of two such numbers loses at
most one bit. -/
def head : Binary64 → Binary64
  | finite negative significand exponent =>
    finite negative (significand - significand % Nat.pow 2 26) exponent
  | x => x

/-- The magnitude of a finite number without its fraction. -/
def wholePart : Binary64 → Nat
  | finite _ significand exponent =>
    let (n, d) := magnitude significand exponent
    n / d
  | _ => 0

end Binary64

/-- A number as the sum of two. -/
structure DoubleDouble where
  high : Binary64
  low : Binary64
deriving DecidableEq, Repr, Inhabited

namespace DoubleDouble

/-- The product of two pairs: that of the high numbers, its rounding error as told by their heads and
tails, and the two products of a high number and a low one. -/
def mul (x y : DoubleDouble) : DoubleDouble :=
  let xTail := x.high.sub x.high.head
  let yTail := y.high.sub y.high.head
  let first := x.high.head.mul y.high.head
  let middle := (x.high.head.mul yTail).add (xTail.mul y.high.head)
  let product := first.add middle
  let error := ((first.sub product).add middle).add (xTail.mul yTail)
  let rest := ((x.high.mul y.low).add (x.low.mul y.high)).add error
  let high := product.add rest
  ⟨high, (product.sub high).add rest⟩

/-- The product of a pair and a power of a factor. -/
def mulPower (factor : DoubleDouble) : Nat → DoubleDouble → DoubleDouble
  | 0, x => x
  | n + 1, x => mulPower factor n (x.mul factor)

/-- The power `10^exponent` as a number and the part `missing · 10^place` that the number lacks. -/
def powerOfTen (exponent missing place : Int) : DoubleDouble :=
  ⟨Binary64.ofScientific false 1 exponent,
   Binary64.ofScientific (missing < 0) missing.natAbs place⟩

/-- The powers by which a pair is made larger, each with its exponent. -/
def upward : List (Nat × DoubleDouble) :=
  [(100, powerOfTen 100 (-15902891109759918046) 64), (10, powerOfTen 10 0 0),
   (1, powerOfTen 1 0 0)]

/-- The powers by which a pair is made smaller, each with the magnitude of its exponent. -/
def downward : List (Nat × DoubleDouble) :=
  [(100, powerOfTen (-100) (-199918998026028836196) (-137)),
   (10, powerOfTen (-10) (-36432197315497741579) (-46)),
   (1, powerOfTen (-1) (-55511151231257827021) (-37))]

/-- The product of a pair and a power of ten that is made up of the given powers, each being used as
often as it fits. -/
def mulPowers : List (Nat × DoubleDouble) → Nat → DoubleDouble → DoubleDouble
  | [], _, x => x
  | (step, factor) :: powers, exponent, x =>
    mulPowers powers (exponent % step) (mulPower factor (exponent / step) x)

/-- The product of a pair and `10^exponent`. -/
def scale (x : DoubleDouble) (exponent : Int) : DoubleDouble :=
  mulPowers (if 0 ≤ exponent then upward else downward) exponent.natAbs x

/-- The greatest floating-point number below `2^64`. -/
def greatestHigh : Nat := 18446744073709549568

/-- A word of 64 bits as a pair. One that is rounded to `2^64` loses its rounding error. -/
def ofWord (word : Nat) : DoubleDouble :=
  let high := Binary64.ofInt word
  ⟨high,
   if high.wholePart ≤ greatestHigh then Binary64.ofInt ((word : Int) - high.wholePart)
   else Binary64.zero false⟩

/-- Digits moved to the left as far as a word of 64 bits has room, and how far is left to go. -/
def moveLeft (word : Nat) : Nat → Nat × Nat
  | 0 => (word, 0)
  | places + 1 =>
    if word < greatestHigh / 10 then moveLeft (10 * word) places else (word, places + 1)

/-- Digits moved to the right as long as the last one is zero, and how far is left to go. -/
def moveRight (word : Nat) : Nat → Nat × Nat
  | 0 => (word, 0)
  | places + 1 => if word % 10 = 0 then moveRight (word / 10) places else (word, places + 1)

/-- The pair for `word · 10^exponent`. -/
def ofDecimal (word : Nat) (exponent : Int) : DoubleDouble :=
  if 0 ≤ exponent then
    let (word, places) := moveLeft word exponent.toNat
    (ofWord word).scale places
  else
    let (word, places) := moveRight word (-exponent).toNat
    (ofWord word).scale (-(places : Int))

end DoubleDouble

/-- The number that a decimal of a word of digits and a power of ten is read as; one that is too
large is infinite. -/
def Binary64.ofDecimal (negative : Bool) (word : Nat) (exponent : Int) : Binary64 :=
  if word = 0 then zero negative
  else
    let pair := DoubleDouble.ofDecimal word exponent
    match pair.high.add pair.low with
    | notANumber => infinite negative
    | x => if negative then x.neg else x

end CardBrowser
