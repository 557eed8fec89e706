import CardBrowser.Sql.Value

/-!
# Patterns

`LIKE` and `GLOB` read their patterns into the same items. `LIKE` ignores the case of the letters
A to Z, `GLOB` does not. Both take text and pattern to end at a NUL, and both take the two code
points U+FFFE and U+FFFF, which are no characters, for the replacement character.
-/

namespace CardBrowser.Sql

/-- What a pattern asks of the next characters. -/
inductive PatternItem where
  /-- Any run of characters, also an empty one. -/
  | anyRun
  /-- Any one character. -/
  | anyOne
  /-- This character. -/
  | exactly (c : Char)
  /-- One character within some range, or with `negated` one outside all of them. -/
  | oneOf (negated : Bool) (ranges : List (Char × Char))
deriving DecidableEq, Repr

/-- Whether a text character stands for a pattern character. -/
abbrev Likeness := Char → Char → Bool

/-- The likeness of `LIKE`. -/
def likeFolded : Likeness := fun p c => Text.foldCase p == Text.foldCase c

/-- The likeness of `GLOB`. -/
def likeExact : Likeness := fun p c => p == c

namespace PatternItem

/-- Whether an item that asks for one character is content with `c`. -/
def admits (likeness : Likeness) (c : Char) : PatternItem → Bool
  | anyRun => false
  | anyOne => true
  | exactly p => likeness p c
  | oneOf negated ranges => ranges.any (fun (first, last) => first ≤ c && c ≤ last) != negated

end PatternItem

/-- For every end part of the text, from the whole text to the empty one, whether the items match
it from its beginning to its end. -/
def suffixMatches (likeness : Likeness) : List PatternItem → List Char → List Bool
  | [], text => text.map (fun _ => false) ++ [true]
  | .anyRun :: items, text =>
    (suffixMatches likeness items text).foldr
      (fun here later => (here || later.headD false) :: later) []
  | item :: items, text =>
    text.zipWith (fun c rest => item.admits likeness c && rest)
      (suffixMatches likeness items text).tail ++ [false]

/-- Whether the items match the whole text. -/
def matchesText (likeness : Likeness) (items : List PatternItem) (text : List Char) : Bool :=
  (suffixMatches likeness items text).headD false

/-- The items of a `LIKE` pattern whose escape character is the backslash. A backslash at the end
leaves nothing that could match. -/
def likeItems : List Char → List PatternItem
  | [] => []
  | '%' :: rest => .anyRun :: likeItems rest
  | '_' :: rest => .anyOne :: likeItems rest
  | '\\' :: c :: rest => .exactly c :: likeItems rest
  | ['\\'] => [.oneOf false []]
  | c :: rest => .exactly c :: likeItems rest

/-- The ranges of a set up to its closing bracket, and what follows the bracket. -/
def readRanges? : List Char → Option (List (Char × Char) × List Char)
  | [] => none
  | ']' :: rest => some ([], rest)
  | first :: '-' :: last :: rest =>
    if last = ']' then some ([(first, first), ('-', '-')], rest)
    else (readRanges? rest).map fun (ranges, rest) => ((first, last) :: ranges, rest)
  | c :: rest => (readRanges? rest).map fun (ranges, rest) => ((c, c) :: ranges, rest)

/-- The items of a `GLOB` pattern. The fuel bounds the number of items. -/
def globItems : Nat → List Char → List PatternItem
  | 0, _ => []
  | _ + 1, [] => []
  | fuel + 1, '*' :: rest => .anyRun :: globItems fuel rest
  | fuel + 1, '?' :: rest => .anyOne :: globItems fuel rest
  | fuel + 1, '[' :: '^' :: rest =>
    match readRanges? rest with
    | some (ranges, rest) => .oneOf true ranges :: globItems fuel rest
    | none => [.oneOf false []]
  | fuel + 1, '[' :: rest =>
    match readRanges? rest with
    | some (ranges, rest) => .oneOf false ranges :: globItems fuel rest
    | none => [.oneOf false []]
  | fuel + 1, c :: rest => .exactly c :: globItems fuel rest

/-- The characters of a text as patterns see them. -/
def visibleCharacters (text : String) : List Char :=
  (beforeNul text.toList).map fun c => if c = '\uFFFE' ∨ c = '\uFFFF' then '\uFFFD' else c

/-- `text LIKE pattern ESCAPE '\'`. -/
def like (text pattern : String) : Bool :=
  matchesText likeFolded (likeItems (visibleCharacters pattern)) (visibleCharacters text)

/-- `text GLOB pattern`. -/
def glob (text pattern : String) : Bool :=
  let characters := visibleCharacters pattern
  matchesText likeExact (globItems characters.length characters) (visibleCharacters text)

end CardBrowser.Sql
