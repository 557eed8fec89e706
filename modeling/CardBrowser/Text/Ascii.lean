import CardBrowser.Text.Blank

/-!
# ASCII letter case and decimal integers

Qualifiers, SQL names and SQL text comparison ignore the case of the letters A to Z and of no
other letter. Numbers in search text are decimal and must fit in 64 bits.
-/

namespace CardBrowser.Text

/-- Lower case for the letters A to Z; every other character stands for itself. -/
def foldCase (c : Char) : Char :=
  if 'A' ≤ c ∧ c ≤ 'Z' then Char.ofNat (c.toNat + 32) else c

/-- The text with `foldCase` applied to every character. -/
def foldText (text : String) : String :=
  String.ofList (text.toList.map foldCase)

/-- The decimal digits 0 to 9. -/
def isDigit (c : Char) : Bool :=
  '0' ≤ c && c ≤ '9'

/-- The number that a list of digits writes, most significant first. -/
def digitsValue (digits : List Char) : Nat :=
  digits.foldl (fun value digit => 10 * value + (digit.toNat - '0'.toNat)) 0

/-- A number that fits in a signed word of 64 bits. -/
def isInt64 (n : Int) : Bool :=
  decide (-9223372036854775808 ≤ n) && decide (n ≤ 9223372036854775807)

/-- A sequence of one or more digits. -/
def readNatural? (digits : List Char) : Option Nat :=
  if digits ≠ [] ∧ digits.all isDigit then some (digitsValue digits) else none

/-- A decimal integer, with one optional sign, that fits in a signed word of 64 bits. -/
def readInt64? (characters : List Char) : Option Int :=
  let value : Option Int := match characters with
    | '-' :: digits => (readNatural? digits).map fun n => -(n : Int)
    | '+' :: digits => (readNatural? digits).map fun n => (n : Int)
    | digits => (readNatural? digits).map fun n => (n : Int)
  value.filter isInt64

end CardBrowser.Text
