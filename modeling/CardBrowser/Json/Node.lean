import CardBrowser.Text.Ascii

/-!
# JSON text that has been read but not interpreted

A `Node` is the tree of a JSON text with its numbers and strings still in their written form. A
reader that only skims a member needs no more than that: a number too large for any type and half
of a surrogate pair are well-formed, and only their interpretation fails.
-/

namespace CardBrowser.Json

/-- A piece of a written string: a character, or the code unit of an escape `\u`. -/
inductive Piece where
  | character (c : Char)
  | unit (code : Nat)
deriving DecidableEq, Repr

/-- A written number: its sign, the digits before and after the point, and the signed digits of
its power of ten. -/
structure Numeral where
  negative : Bool
  whole : List Char
  fraction : Option (List Char)
  power : Option (Bool × List Char)
deriving DecidableEq, Repr

/-- The tree of a JSON text. -/
inductive Node where
  | null
  | bool (value : Bool)
  | number (numeral : Numeral)
  | string (pieces : List Piece)
  | array (items : List Node)
  | object (members : List (List Piece × Node))
deriving Repr, Inhabited

/-- White space between the tokens of JSON. -/
def isGap (c : Char) : Bool :=
  c == ' ' || c == '\n' || c == '\t' || c == '\r'

/-- The characters after white space. -/
def skipGap (characters : List Char) : List Char :=
  characters.dropWhile isGap

/-- The value of a hexadecimal digit. -/
def hexDigit? (c : Char) : Option Nat :=
  if '0' ≤ c ∧ c ≤ '9' then some (c.toNat - '0'.toNat)
  else if 'a' ≤ c ∧ c ≤ 'f' then some (c.toNat - 'a'.toNat + 10)
  else if 'A' ≤ c ∧ c ≤ 'F' then some (c.toNat - 'A'.toNat + 10)
  else none

/-- The character that an escape of one letter stands for. -/
def shortEscape? (c : Char) : Option Char :=
  match c with
  | '"' => some '"'
  | '\\' => some '\\'
  | '/' => some '/'
  | 'b' => some '\x08'
  | 'f' => some '\x0c'
  | 'n' => some '\n'
  | 'r' => some '\r'
  | 't' => some '\t'
  | _ => none

/-- The pieces of a string up to its closing quote, and what follows the quote. Control characters
must be escaped. -/
def readPieces? : List Char → Option (List Piece × List Char)
  | [] => none
  | '"' :: rest => some ([], rest)
  | '\\' :: 'u' :: a :: b :: c :: d :: rest => do
    let code := 4096 * (← hexDigit? a) + 256 * (← hexDigit? b) + 16 * (← hexDigit? c)
      + (← hexDigit? d)
    let (pieces, rest) ← readPieces? rest
    return (.unit code :: pieces, rest)
  | '\\' :: c :: rest => do
    let character ← shortEscape? c
    let (pieces, rest) ← readPieces? rest
    return (.character character :: pieces, rest)
  | c :: rest =>
    if c = '\\' ∨ c.toNat < 0x20 then none
    else do
      let (pieces, rest) ← readPieces? rest
      return (.character c :: pieces, rest)

/-- A run of one or more digits and what follows it. -/
def readDigits? (characters : List Char) : Option (List Char × List Char) :=
  let digits := characters.takeWhile Text.isDigit
  if digits.isEmpty then none else some (digits, characters.dropWhile Text.isDigit)

/-- The digits before the point: a zero, or a run that does not begin with one. -/
def readWhole? : List Char → Option (List Char × List Char)
  | '0' :: rest => if rest.head?.any Text.isDigit then none else some (['0'], rest)
  | characters => readDigits? characters

/-- The power of ten of a number, if one follows. -/
def readPower? : List Char → Option (Option (Bool × List Char) × List Char)
  | c :: rest =>
    if c = 'e' ∨ c = 'E' then
      match rest with
      | '-' :: rest => (readDigits? rest).map fun (digits, rest) => (some (true, digits), rest)
      | '+' :: rest => (readDigits? rest).map fun (digits, rest) => (some (false, digits), rest)
      | rest => (readDigits? rest).map fun (digits, rest) => (some (false, digits), rest)
    else some (none, c :: rest)
  | [] => some (none, [])

/-- A number without its sign. -/
def readUnsigned? (negative : Bool) (characters : List Char) :
    Option (Numeral × List Char) := do
  let (whole, rest) ← readWhole? characters
  match rest with
  | '.' :: rest =>
    let (fraction, rest) ← readDigits? rest
    let (power, rest) ← readPower? rest
    return (⟨negative, whole, some fraction, power⟩, rest)
  | rest =>
    let (power, rest) ← readPower? rest
    return (⟨negative, whole, none, power⟩, rest)

/-- A number. -/
def readNumeral? : List Char → Option (Numeral × List Char)
  | '-' :: rest => readUnsigned? true rest
  | characters => readUnsigned? false characters

mutual

/-- A value, white space before it allowed, and what follows it. The fuel bounds how many values
are begun one after or inside another, which no text outnumbers. -/
def readNode? : Nat → List Char → Option (Node × List Char)
  | 0, _ => none
  | fuel + 1, characters =>
    match skipGap characters with
    | 'n' :: 'u' :: 'l' :: 'l' :: rest => some (.null, rest)
    | 't' :: 'r' :: 'u' :: 'e' :: rest => some (.bool true, rest)
    | 'f' :: 'a' :: 'l' :: 's' :: 'e' :: rest => some (.bool false, rest)
    | '"' :: rest => (readPieces? rest).map fun (pieces, rest) => (.string pieces, rest)
    | '[' :: rest =>
      match skipGap rest with
      | ']' :: rest => some (.array [], rest)
      | rest => (readItems? fuel rest).map fun (items, rest) => (.array items, rest)
    | '\x7b' :: rest =>
      match skipGap rest with
      | '\x7d' :: rest => some (.object [], rest)
      | rest => (readMembers? fuel rest).map fun (members, rest) => (.object members, rest)
    | rest => (readNumeral? rest).map fun (numeral, rest) => (.number numeral, rest)

/-- The items of an array from one that must follow up to the closing bracket. -/
def readItems? : Nat → List Char → Option (List Node × List Char)
  | 0, _ => none
  | fuel + 1, characters => do
    let (item, rest) ← readNode? fuel characters
    match skipGap rest with
    | ',' :: rest =>
      let (items, rest) ← readItems? fuel rest
      return (item :: items, rest)
    | ']' :: rest => return ([item], rest)
    | _ => none

/-- The members of an object from one that must follow up to the closing brace. -/
def readMembers? : Nat → List Char → Option (List (List Piece × Node) × List Char)
  | 0, _ => none
  | fuel + 1, characters =>
    match skipGap characters with
    | '"' :: rest => do
      let (name, rest) ← readPieces? rest
      match skipGap rest with
      | ':' :: rest =>
        let (value, rest) ← readNode? fuel rest
        match skipGap rest with
        | ',' :: rest =>
          let (members, rest) ← readMembers? fuel rest
          return ((name, value) :: members, rest)
        | '\x7d' :: rest => return ([(name, value)], rest)
        | _ => none
      | _ => none
    | _ => none

end

/-- The tree of a text that holds one value and nothing else but white space. -/
def Node.ofText? (text : String) : Option Node :=
  match readNode? (text.toList.length + 1) text.toList with
  | some (node, rest) => if (skipGap rest).isEmpty then some node else none
  | none => none

end CardBrowser.Json
