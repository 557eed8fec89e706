import CardBrowser.Text.Ascii
import CardBrowser.Text.WordRanges

/-!
# Names and words in SQL text

A table is joined only when some text mentions its alias, and a sort expression is computed ahead
of the search when it holds a nested `SELECT`. Both questions are about SQL that nobody has read
yet, so they are answered on its characters: `scanQualifiers` finds the names written before a dot,
and `containsSelect` looks for the keyword.
-/

namespace CardBrowser.Text

/-- Whether some range of the table holds the code point. -/
def inRanges (ranges : Array (Nat × Nat)) (n : Nat) : Bool :=
  ranges.any fun (first, last) => first ≤ n && n ≤ last

/-- First character of a name: an ASCII letter or an underscore. -/
def isNameStart (c : Char) : Bool :=
  ('A' ≤ c && c ≤ 'Z') || ('a' ≤ c && c ≤ 'z') || c == '_'

/-- Later character of a name: also a digit. -/
def isNamePart (c : Char) : Bool :=
  isNameStart c || isDigit c

/-- A name of SQL that needs no quotes. -/
def isName : List Char → Bool
  | [] => false
  | c :: rest => isNameStart c && rest.all isNamePart

/-- A character that continues a word, so that no word begins after it and none ends before it. -/
def isWord (c : Char) : Bool :=
  if c.toNat < 128 then isNamePart c else inRanges wordRanges c.toNat

/-- The name at the beginning of the characters if it is followed by a dot and no word goes on
before it. `afterWord` tells whether the character before the text continues a word. -/
def qualifier? (afterWord : Bool) : List Char → Option (List Char)
  | [] => none
  | c :: rest =>
    if !afterWord && isNameStart c && (rest.dropWhile isNamePart).head? == some '.' then
      some (c :: rest.takeWhile isNamePart)
    else
      none

/-- The names before dots that are found from left to right. What has been found is passed over
before the next one is looked for; `passed` tells how many characters of it are still to come. -/
def scanQualifiers (passed : Nat) (afterWord : Bool) : List Char → List (List Char)
  | [] => []
  | c :: rest =>
    match passed, qualifier? afterWord (c :: rest) with
    | passed + 1, _ => scanQualifiers passed (isWord c) rest
    | 0, none => scanQualifiers 0 (isWord c) rest
    -- The first character of the name is `c`, and the dot is passed over as well.
    | 0, some name => name :: scanQualifiers name.length (isWord c) rest

/-- Whether SQL text refers to a column through a short name and a dot. Case matters: `N.` is no
reference to the short name `n`. -/
def mentionsAlias (sql shortName : String) : Bool :=
  (scanQualifiers 0 false sql.toList).contains shortName.toList

/-- A letter of a keyword in lower case. The long s is the one character beyond ASCII whose simple
case folding is a letter of `select`. -/
def foldKeyword (c : Char) : Char :=
  if c = 'ſ' then 's' else foldCase c

/-- Whether the characters begin with the whole word, its letters written in any case. -/
def startsWithKeyword : List Char → List Char → Bool
  | [], rest => !(rest.head?.any isWord)
  | _ :: _, [] => false
  | k :: keyword, c :: rest => foldKeyword c == k && startsWithKeyword keyword rest

/-- Whether the keyword occurs as a word of its own. -/
def containsKeyword (keyword : List Char) (afterWord : Bool) : List Char → Bool
  | [] => false
  | c :: rest =>
    (!afterWord && startsWithKeyword keyword (c :: rest)) ||
      containsKeyword keyword (isWord c) rest

/-- Whether SQL text holds a nested `SELECT`. -/
def containsSelect (sql : String) : Bool :=
  containsKeyword "select".toList false sql.toList

end CardBrowser.Text
