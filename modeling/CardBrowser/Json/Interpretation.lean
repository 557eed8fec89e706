import CardBrowser.Json.Node
import CardBrowser.Json.Value

/-!
# The meaning of written JSON

`Node.value?` gives the value of a tree as a whole. A structure with known members is decoded
member by member instead: `Node.record?` finds the written members in an object or, by position,
in an array, and leaves everything else uninterpreted.
-/

namespace CardBrowser.Json

/-- The text of a written string. Two code units are one character when they form a surrogate
pair, and half of a pair is no character. -/
def pieceText? : List Piece → Option (List Char)
  | [] => some []
  | .character c :: rest => (pieceText? rest).map (c :: ·)
  | .unit high :: rest =>
    if 0xD800 ≤ high ∧ high < 0xDC00 then
      match rest with
      | .unit low :: rest =>
        if 0xDC00 ≤ low ∧ low < 0xE000 then
          (pieceText? rest).map
            (Char.ofNat (0x10000 + 0x400 * (high - 0xD800) + (low - 0xDC00)) :: ·)
        else none
      | _ => none
    else if 0xDC00 ≤ high ∧ high < 0xE000 then none
    else (pieceText? rest).map (Char.ofNat high :: ·)

/-- The greatest unsigned word of 64 bits. -/
def greatestWord : Nat := 18446744073709551615

namespace Numeral

/-- The digits that fit in a word of 64 bits, as a number, and the digits after them. -/
def leadingWord (word : Nat) : List Char → Nat × List Char
  | [] => (word, [])
  | digit :: rest =>
    let next := 10 * word + (digit.toNat - '0'.toNat)
    if greatestWord < next then (word, digit :: rest) else leadingWord next rest

/-- Multiplies by a power of ten, each factor of ten to the 308 and the rest being rounded by
itself. A result beyond the range of the format is none. -/
def scale? : Nat → Binary64 → Int → Option Binary64
  | 0, _, _ => none
  | fuel + 1, x, exponent =>
    if exponent.natAbs ≤ 308 then
      let power := Binary64.ofScientific false 1 exponent.natAbs
      if 0 ≤ exponent then
        match x.mul power with
        | .infinite _ => none
        | product => some product
      else some (x.div power)
    else if x.isZero then some x
    else if 0 ≤ exponent then none
    else scale? fuel (x.div (Binary64.ofScientific false 1 308)) (exponent + 308)

/-- The floating-point number of a numeral: as many leading digits as fit in a word, rounded, and
then scaled by the power of ten. A power beyond 32 bits gives zero or lies out of range. -/
def float? (numeral : Numeral) : Option Binary64 :=
  let (word, dropped) := leadingWord 0 numeral.whole
  let fraction := numeral.fraction.getD []
  let (word, unused) := leadingWord word fraction
  let exponent : Int := (dropped.length : Int) - (fraction.length - unused.length : Nat)
  let x := Binary64.roundRatio numeral.negative word 1
  match numeral.power with
  | none => scale? 4 x exponent
  | some (negative, digits) =>
    let power := Text.digitsValue digits
    if 2147483647 < power then
      if word ≠ 0 ∧ !negative then none else some (Binary64.zero numeral.negative)
    else scale? 4 x (exponent + if negative then -(power : Int) else power)

/-- The floating-point number nearest to what a numeral writes. -/
def nearest (numeral : Numeral) : Binary64 :=
  let fraction := numeral.fraction.getD []
  let power : Int := match numeral.power with
    | none => 0
    | some (negative, digits) =>
      if negative then -(Text.digitsValue digits : Int) else Text.digitsValue digits
  Binary64.ofScientific numeral.negative (Text.digitsValue (numeral.whole ++ fraction))
    (power - fraction.length)

/-- The whole number of a numeral without point and power that is within the signed or unsigned
words of 64 bits. Minus zero is none. -/
def integer? (numeral : Numeral) : Option Int :=
  if numeral.fraction.isSome || numeral.power.isSome then none
  else
    let n := Text.digitsValue numeral.whole
    if numeral.negative then if 0 < n ∧ n ≤ 9223372036854775808 then some (-(n : Int)) else none
    else if n ≤ greatestWord then some n
    else none

/-- The value of a numeral: a whole number where that is possible. -/
def value? (numeral : Numeral) : Option Value :=
  match numeral.integer? with
  | some n => some (.integer n)
  | none => numeral.float?.map .float

end Numeral

namespace Node

/-- The text of a string node. -/
def text? : Node → Option String
  | string pieces => (pieceText? pieces).map String.ofList
  | _ => none

/-- The value of a truth node. -/
def bool? : Node → Option Bool
  | bool value => some value
  | _ => none

/-- A whole number of a signed word of 64 bits. -/
def int64? : Node → Option Int
  | number numeral => numeral.integer?.filter Text.isInt64
  | _ => none

/-- A whole number from zero to the limit. -/
def natUpTo? (limit : Nat) : Node → Option Nat
  | number numeral =>
    match numeral.integer? with
    | some (.ofNat n) => if n ≤ limit then some n else none
    | _ => none
  | _ => none

/-- The items of an array node. -/
def items? : Node → Option (List Node)
  | array items => some items
  | _ => none

/-- The texts of an array of strings. -/
def texts? (node : Node) : Option (List String) :=
  node.items?.bind fun items => items.mapM text?

/-- The members of an object node with their names. -/
def members? : Node → Option (List (String × Node))
  | object members => members.mapM fun (name, value) =>
    (pieceText? name).map fun name => (String.ofList name, value)
  | _ => none

/-- The member of that name; none if there are several. -/
def onlyMember? (members : List (String × Node)) (name : String) : Option (Option Node) :=
  match members.filter fun member => member.1 == name with
  | [] => some none
  | [(_, value)] => some (some value)
  | _ => none

/-- The written members of a structure, in the order of their names and none where one is not
written. An object may have other members too, but none of these twice; an array gives the members
by position and must not be longer. -/
def record? (names : List String) : Node → Option (List (Option Node))
  | array items =>
    if items.length ≤ names.length then
      some (items.map some ++ List.replicate (names.length - items.length) none)
    else none
  | node => node.members?.bind fun members => names.mapM (onlyMember? members)

/-- The member decoded, or the default where it is not written. -/
def orDefault {α : Type} (decode : Node → Option α) (fallback : α) (member : Option Node) :
    Option α :=
  match member with
  | none => some fallback
  | some node => decode node

mutual

/-- How deeply arrays and objects are nested. -/
def depth : Node → Nat
  | array items => itemsDepth items + 1
  | object members => membersDepth members + 1
  | _ => 0

/-- The greatest depth of the items. -/
def itemsDepth : List Node → Nat
  | [] => 0
  | item :: rest => max item.depth (itemsDepth rest)

/-- The greatest depth of the members. -/
def membersDepth : List (List Piece × Node) → Nat
  | [] => 0
  | (_, value) :: rest => max value.depth (membersDepth rest)

end

mutual

/-- The value of a tree. -/
def value? : Node → Option Value
  | null => some .null
  | bool value => some (.bool value)
  | number numeral => numeral.value?
  | string pieces => (pieceText? pieces).map fun text => .string (String.ofList text)
  | array items => (itemValues? items).map .array
  | object members => (memberValues? members).map fun pairs => .object (Members.ofList pairs)

/-- The values of the items. -/
def itemValues? : List Node → Option (List Value)
  | [] => some []
  | item :: rest => do
    let value ← item.value?
    let values ← itemValues? rest
    return value :: values

/-- The names and values of the members. -/
def memberValues? : List (List Piece × Node) → Option (List (String × Value))
  | [] => some []
  | (name, node) :: rest => do
    let name ← pieceText? name
    let value ← node.value?
    let values ← memberValues? rest
    return (String.ofList name, value) :: values

end

end Node

/-- How deeply a value may be nested in a text. -/
def depthLimit : Nat := 127

/-- The value of a text that holds one value, nested no deeper than the limit. -/
def Value.ofText? (text : String) : Option Value :=
  (Node.ofText? text).bind fun node => if node.depth ≤ depthLimit then node.value? else none

end CardBrowser.Json
