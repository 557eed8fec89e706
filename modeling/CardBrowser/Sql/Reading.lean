import CardBrowser.Sql.Token

/-!
# Reading statements

A reader gives what it read and the tokens that follow. One that fails says what stands where
something else is due, or that the text ends there. What follows a semicolon belongs to no
statement.
-/

namespace CardBrowser.Sql

/-- Why a text is no statement. -/
inductive Misread where
  /-- The text ends where more is due. -/
  | unfinished
  /-- Something stands where it may not. -/
  | unexpected (token : Token)
  /-- A condition of a join where nothing is joined. -/
  | joinless
deriving DecidableEq, Repr

/-- The failure of a reader that has no use for what follows. -/
def Misread.at : List Token → Misread
  | [] => unfinished
  | token :: _ => unexpected token

/-- Whether the next token is the keyword. -/
def startsWith (keyword : String) (tokens : List Token) : Bool :=
  tokens.head?.any (·.isKeyword keyword)

/-- Passes over a symbol. -/
def readSymbol (s : String) (tokens : List Token) : Except Misread (List Token) :=
  if tokens.head? = some (.symbol s) then .ok tokens.tail else .error (.at tokens)

/-- Passes over a keyword. -/
def readKeyword (keyword : String) (tokens : List Token) : Except Misread (List Token) :=
  if startsWith keyword tokens then .ok tokens.tail else .error (.at tokens)

/-- Passes over keywords. -/
def readKeywords (keywords : List String) (tokens : List Token) : Except Misread (List Token) :=
  keywords.foldlM (fun rest keyword => readKeyword keyword rest) tokens

/-- Keywords that may be left out: whether they are there. The first of them alone is taken for
their beginning. -/
def readOption (keyword : String) (others : List String) (tokens : List Token) :
    Except Misread (Bool × List Token) :=
  if startsWith keyword tokens then (readKeywords others tokens.tail).map (true, ·)
  else .ok (false, tokens)

/-- A name, which may stand in quotes. -/
def readName : List Token → Except Misread (String × List Token)
  | token :: rest =>
    match token.name? with
    | some name => .ok (name, rest)
    | none => .error (.unexpected token)
  | [] => .error .unfinished

/-- A name without quotes. -/
def readWord : List Token → Except Misread (String × List Token)
  | .name word :: rest =>
    if isReserved word then .error (.unexpected (.name word)) else .ok (word, rest)
  | tokens => .error (.at tokens)

/-- Items separated by commas. The fuel bounds their number. -/
def readItems {α : Type} (readItem : List Token → Except Misread (α × List Token)) :
    Nat → List Token → Except Misread (List α × List Token)
  | 0, _ => .error .unfinished
  | fuel + 1, tokens => do
    let (item, rest) ← readItem tokens
    match rest with
    | .symbol "," :: rest =>
      let (items, rest) ← readItems readItem fuel rest
      return (item :: items, rest)
    | rest => return ([item], rest)

/-- Items separated by commas; every one takes at least one token. -/
def readSeries {α : Type} (readItem : List Token → Except Misread (α × List Token))
    (tokens : List Token) : Except Misread (List α × List Token) :=
  readItems readItem (tokens.length + 1) tokens

/-- Items separated by commas up to the closing parenthesis. -/
def readList {α : Type} (readItem : List Token → Except Misread (α × List Token))
    (tokens : List Token) : Except Misread (List α × List Token) := do
  let (items, rest) ← readSeries readItem tokens
  return (items, ← readSymbol ")" rest)

/-- The end of a statement. -/
def readEnd : List Token → Except Misread Unit
  | [] => .ok ()
  | .symbol ";" :: _ => .ok ()
  | token :: _ => .error (.unexpected token)

/-! ## What is known but not read -/

/-- A part of the opening of a statement. -/
inductive Slot where
  | keyword (word : String)
  /-- A name, which is not the word `IF`. -/
  | name
  | symbol (s : String)
deriving DecidableEq, Repr

/-- Whether a token fits into a slot. -/
def Slot.admits : Slot → Token → Bool
  | keyword word, token => token.isKeyword word
  | name, token => token.name?.isSome && !token.isKeyword "if"
  | symbol s, token => token == .symbol s

/-- Whether tokens begin an opening, or are all of it, and end there. -/
def breakOff : List Slot → List Token → Bool
  | _, [] => true
  | [], _ :: _ => false
  | slot :: slots, token :: rest => slot.admits token && breakOff slots rest

/-- The failure at a statement that may open in ways that are not read: a text that breaks off
within such an opening is unfinished. -/
def Misread.within (openings : List (List Slot)) (statement : List Token) (misread : Misread) :
    Misread :=
  if openings.any (breakOff · statement) then unfinished else misread

end CardBrowser.Sql
