import CardBrowser.Error
import CardBrowser.Text.Ascii

/-!
# Search text

A search text is a list of words, all of which have to hold. Words are separated by white space
outside of double quotes; the quotes themselves are dropped. A word `q:v` with one of six
qualifiers asks for a property of the card or its note, every other word is looked for in the
fields, and a word after a dash must not hold.
-/

namespace CardBrowser.Search

/-- The word that is being read and the words after it, where `quoted` tells whether the text
begins inside quotes. None if a quote stays open. -/
def readWords? (quoted : Bool) : List Char → Option (List Char × List (List Char))
  | [] => if quoted then none else some ([], [])
  | c :: rest =>
    if c = '"' then readWords? (!quoted) rest
    else if Text.isBlank c && !quoted then
      (readWords? false rest).map fun (word, later) => ([], word :: later)
    else (readWords? quoted rest).map fun (word, later) => (c :: word, later)

/-- The words of a search text. A pair of quotes with nothing between them is no word. -/
def words? (text : List Char) : Option (List (List Char)) :=
  (readWords? false text).map fun (word, later) => (word :: later).filter (· ≠ [])

/-- The properties that a word can ask for. -/
inductive Qualifier where
  | tag
  | note
  | card
  | deck
  | ordinal
  | state
deriving DecidableEq, Repr

namespace Qualifier

/-- How a qualifier is written. -/
def name : Qualifier → String
  | tag => "tag"
  | note => "nid"
  | card => "cid"
  | deck => "deck"
  | ordinal => "card"
  | state => "is"

/-- All qualifiers. -/
def all : List Qualifier :=
  [tag, note, card, deck, ordinal, state]

/-- The qualifier of a name in any ASCII case. -/
def ofName? (name : List Char) : Option Qualifier :=
  all.find? fun qualifier => qualifier.name.toList == name.map Text.foldCase

end Qualifier

/-- The scheduling states that a word can ask for. -/
inductive CardState where
  | new
  | learn
  | review
  | suspended
  | due
deriving DecidableEq, Repr

namespace CardState

/-- How a state is written. -/
def name : CardState → String
  | new => "new"
  | learn => "learn"
  | review => "review"
  | suspended => "suspended"
  | due => "due"

/-- All states. -/
def all : List CardState :=
  [new, learn, review, suspended, due]

/-- The state of a name in any ASCII case. -/
def ofName? (name : List Char) : Option CardState :=
  all.find? fun state => state.name.toList == name.map Text.foldCase

end CardState

/-- What a word asks for. -/
inductive Term where
  /-- The value occurs in the sort field or in the fields. -/
  | text (value : List Char)
  /-- The value is a tag of the note. -/
  | tag (value : List Char)
  /-- The note is one of these. -/
  | notes (ids : List Int)
  /-- The card is one of these. -/
  | cards (ids : List Int)
  | deck (id : Int)
  /-- The card was made by the template of this ordinal, counted from zero. -/
  | ordinal (n : Int)
  | state (wanted : CardState)
deriving DecidableEq, Repr

/-- A term or its negation. -/
structure Clause where
  negated : Bool
  term : Term
deriving DecidableEq, Repr

/-- What stands before and after the first colon. -/
def splitColon? (word : List Char) : Option (List Char × List Char) :=
  match word.dropWhile (· ≠ ':') with
  | [] => none
  | _ :: value => some (word.takeWhile (· ≠ ':'), value)

/-- A number, white space around it allowed. -/
def readNumber (value : List Char) : Except SearchFault Int :=
  match Text.readInt64? (Text.trimBlanks value) with
  | some n => .ok n
  | none => .error (.notANumber (String.ofList value))

/-- Numbers separated by commas. -/
def readNumbers (value : List Char) : Except SearchFault (List Int) :=
  (value.splitOn ',').mapM readNumber

/-- The term of a qualifier and its value, which is not empty. -/
def Term.ofQualified (value : List Char) : Qualifier → Except SearchFault Term
  | .tag => .ok (.tag value)
  | .note => (readNumbers value).map .notes
  | .card => (readNumbers value).map .cards
  | .deck => (readNumber value).map .deck
  | .ordinal => do
    let n ← readNumber value
    if n < 1 then .error .ordinalBelowOne else .ok (.ordinal (n - 1))
  | .state =>
    match CardState.ofName? value with
    | some found => .ok (.state found)
    | none => .error (.unknownState (String.ofList (value.map Text.foldCase)))

/-- The term of a word without its dash. -/
def Term.ofWord (word : List Char) : Except SearchFault Term :=
  match splitColon? word with
  | none => .ok (.text word)
  | some (name, value) =>
    match Qualifier.ofName? name with
    | none => .ok (.text word)
    | some qualifier =>
      if value = [] then .error (.missingValue qualifier.name)
      else Term.ofQualified value qualifier

/-- The clause of a word. A dash with nothing after it is plain text. -/
def Clause.ofWord (word : List Char) : Except SearchFault Clause :=
  match word with
  | '-' :: c :: rest => (Term.ofWord (c :: rest)).map (⟨true, ·⟩)
  | word => (Term.ofWord word).map (⟨false, ·⟩)

/-- The clauses of a search text. -/
def clauses (text : List Char) : Except SearchFault (List Clause) :=
  match words? text with
  | none => .error .unbalancedQuotes
  | some words => words.mapM Clause.ofWord

end CardBrowser.Search
