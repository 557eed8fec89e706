import CardBrowser.Sql.Keyword
import CardBrowser.Sql.Value

/-!
# Tokens of SQL text

SQL text is cut into tokens from the left. Blanks and comments separate tokens, and a NUL ends the
text. Every text has tokens: a character that begins none of the others is a symbol of its own,
which no statement has a use for.
-/

namespace CardBrowser.Sql

/-- A token of SQL text. -/
inductive Token where
  | name (word : String)
  /-- A name between double quotes, backquotes or brackets. -/
  | quoted (word : String)
  | integer (n : Int)
  | decimal (digits places : Nat)
  | string (s : String)
  | placeholder (number : Nat)
  | symbol (s : String)
deriving DecidableEq, Repr

namespace Token

/-- A character that may begin a name. -/
def beginsName (c : Char) : Bool :=
  Text.isNameStart c || 128 ≤ c.toNat

/-- A character that may continue a name. -/
def continuesName (c : Char) : Bool :=
  beginsName c || Text.isDigit c || c == '$'

/-- A character that may begin a run of blanks. -/
def beginsBlanks (c : Char) : Bool :=
  c == ' ' || c == '\t' || c == '\n' || c == '\r' || c == '\x0c'

/-- A character that may continue a run of blanks. The vertical tab does not begin one. -/
def continuesBlanks (c : Char) : Bool :=
  beginsBlanks c || c == '\x0b'

/-- The text up to a closing quote, a quote inside being written twice, and what follows the
quote. -/
def readQuoted? (quote : Char) : List Char → Option (List Char × List Char)
  | [] => none
  | [c] => if c = quote then some ([], []) else none
  | c :: next :: rest =>
    if c ≠ quote then (readQuoted? quote (next :: rest)).map fun (s, rest) => (c :: s, rest)
    else if next ≠ quote then some ([], next :: rest)
    else (readQuoted? quote rest).map fun (s, rest) => (quote :: s, rest)

/-- The text up to a closing bracket, and what follows the bracket. -/
def readBracketed? : List Char → Option (List Char × List Char)
  | [] => none
  | ']' :: rest => some ([], rest)
  | c :: rest => (readBracketed? rest).map fun (s, rest) => (c :: s, rest)

/-- What follows a comment that ends with a star and a slash; nothing if it stays open. -/
def afterComment : List Char → List Char
  | [] => []
  | '*' :: '/' :: rest => rest
  | _ :: rest => afterComment rest

/-- The token that begins with a character other than a letter or a digit, and what follows it. A
quote that stays open is a symbol after which nothing follows. -/
def readMark (c : Char) (rest : List Char) : Token × List Char :=
  let quotation (found : Option (List Char × List Char)) (token : String → Token) :=
    match found with
    | some (s, rest) => (token (String.ofList s), rest)
    | none => (symbol c.toString, [])
  match c, rest with
  | '\'', rest => quotation (readQuoted? c rest) string
  | '"', rest => quotation (readQuoted? c rest) quoted
  | '\x60', rest => quotation (readQuoted? c rest) quoted
  | '[', rest => quotation (readBracketed? rest) quoted
  | '<', '=' :: rest => (symbol "<=", rest)
  | '<', '>' :: rest => (symbol "<>", rest)
  | '>', '=' :: rest => (symbol ">=", rest)
  | '=', '=' :: rest => (symbol "=", rest)
  | '!', '=' :: rest => (symbol "<>", rest)
  | '.', d :: rest =>
    if Text.isDigit d then
      let places := d :: rest.takeWhile Text.isDigit
      (decimal (Text.digitsValue places) places.length, rest.dropWhile Text.isDigit)
    else (symbol ".", d :: rest)
  | '?', rest =>
    match rest.takeWhile Text.isDigit with
    | [] => (symbol "?", rest)
    | digits => (placeholder (Text.digitsValue digits), rest.dropWhile Text.isDigit)
  | c, rest => (symbol c.toString, rest)

/-- What follows a quote up to its closing one, which is what a text of bytes is; nothing if the
quote stays open. -/
def afterQuoted (rest : List Char) : List Char :=
  ((readQuoted? '\'' rest).map Prod.snd).getD []

/-- The number that begins with a digit, and what follows it. -/
def readNumber (digit : Char) (rest : List Char) : Token × List Char :=
  let digits := digit :: rest.takeWhile Text.isDigit
  match rest.dropWhile Text.isDigit with
  | '.' :: rest =>
    let places := rest.takeWhile Text.isDigit
    (decimal (Text.digitsValue (digits ++ places)) places.length, rest.dropWhile Text.isDigit)
  | rest => (integer (Text.digitsValue digits), rest)

/-- The tokens of a text. The fuel bounds their number and that of the blanks between them. -/
def ofChars : Nat → List Char → List Token
  | 0, _ => []
  | _ + 1, [] => []
  | fuel + 1, '-' :: '-' :: rest => ofChars fuel (rest.dropWhile (· ≠ '\n'))
  | fuel + 1, '/' :: '*' :: c :: rest => ofChars fuel (afterComment (c :: rest))
  | fuel + 1, '\uFEFF' :: rest => ofChars fuel rest
  | fuel + 1, c :: rest =>
    if beginsBlanks c then ofChars fuel (rest.dropWhile continuesBlanks)
    else if (c == 'x' || c == 'X') && rest.head? == some '\'' then
      symbol c.toString :: ofChars fuel (afterQuoted rest.tail)
    else if beginsName c then
      name (String.ofList (c :: rest.takeWhile continuesName)) ::
        ofChars fuel (rest.dropWhile continuesName)
    else
      let (token, rest) := if Text.isDigit c then readNumber c rest else readMark c rest
      token :: ofChars fuel rest

/-- The tokens of a text. Every one takes at least one character. -/
def ofText (sql : String) : List Token :=
  let characters := beforeNul sql.toList
  ofChars (characters.length + 1) characters

/-- Whether a token is the keyword, which is given in lower case. -/
def isKeyword (keyword : String) : Token → Bool
  | name word => Text.foldText word == keyword
  | _ => false

/-- The name that a token may stand for where a table is due: a word that is not reserved, or
anything in quotes. -/
def name? : Token → Option String
  | name word => if isReserved word then none else some word
  | quoted word => some word
  | string s => some s
  | _ => none

/-- The name that a token may stand for directly after another name, as an alias does. -/
def label? (token : Token) : Option String :=
  match token with
  | name word => if isClauseWord word then none else token.name?
  | _ => token.name?

/-- A token as it is told in an error. -/
def text : Token → String
  | name word => word
  | quoted word => word
  | integer n => toString n
  | decimal digits places => (Decimal.mk digits (-(places : Int))).positional true
  | string s => s
  | placeholder number => "?" ++ toString number
  | symbol s => s

end Token

end CardBrowser.Sql
