import CardBrowser.Database.Fault
import CardBrowser.Sql.Eval

/-!
# The rows of a statement

A statement looks at every choice of one row from each of its tables. The conditions that have to
hold together are tried one after the other, and a choice is given up at the first that does not
hold. This order shows in one thing only: a pattern that is too long is a fault where a choice of
rows gets as far as that pattern.
-/

namespace CardBrowser.Database

open CardBrowser.Sql

/-- The tables of a `FROM` clause under their aliases. -/
abbrev From := List (String × Source)

/-- The rows of a `FROM` clause: every choice of one row from each table. -/
def frames : From → List Frame
  | [] => [[]]
  | (shortName, source) :: rest =>
    source.rows.flatMap fun row => (frames rest).map fun frame => (shortName, row) :: frame

/-- The frame against which the names of a statement are resolved. -/
def sampleFrame (sources : From) : Frame :=
  sources.map fun (shortName, source) => (shortName, source.sample)

/-- Whether a condition holds in the rows at hand. -/
def holds (tables : Tables) (parameters : List Value) (frame : Frame) (condition : Expr) : Bool :=
  (condition.eval tables parameters [frame]).truth? == some true

/-! ## Long patterns -/

/-- The conditions that hold together where a condition holds. -/
def conjuncts : Expr → List Expr
  | .binary .and left right => conjuncts left ++ conjuncts right
  | .paren inner => conjuncts inner
  | condition => [condition]

/-- Whether a value given as a pattern is too long. -/
def isLongPattern (pattern : Value) : Bool :=
  pattern.asText?.any fun text => longestPattern < text.utf8ByteSize

/-- Whether a condition compares with a pattern that is too long. -/
def hasLongPattern (parameters : List Value) : Expr → Bool
  | .paren inner => hasLongPattern parameters inner
  | .not operand => hasLongPattern parameters operand
  | .binary _ left right => hasLongPattern parameters left || hasLongPattern parameters right
  | .like _ (.placeholder number) => isLongPattern (parameter parameters number)
  | _ => false

/-- Whether conditions that are tried in turn come to a pattern that is too long. -/
def triesLongPattern (tables : Tables) (parameters : List Value) (frame : Frame) :
    List Expr → Bool
  | [] => false
  | condition :: later =>
    hasLongPattern parameters condition ||
      (holds tables parameters frame condition &&
        triesLongPattern tables parameters frame later)

/-- A condition on the id of the card's note, asked of the note itself. -/
def onNote? : Expr → Option Expr
  | .inList (.column (some "c") "nid") ids => some (.inList (.column (some "n") "id") ids)
  | .not operand => (onNote? operand).map .not
  | .paren inner => onNote? inner
  | _ => none

/-- The shorter of two lists, the first if they are of one length. -/
def shorter (first second : List Int) : List Int :=
  if second.length < first.length then second else first

/-- What is asked of the ids of notes that are looked up in a list; none if conditions give no list.
An id that is alone in its list has to satisfy every condition on it, else the notes are those of the
shortest list. -/
def noteTries? (conditions : List Expr) : Option (List Expr) :=
  let lists := conditions.filterMap fun
    | .inList (.column (some "c") "nid") ids => some ids
    | _ => none
  match lists with
  | [] => none
  | list :: lists =>
    let shortest := lists.foldl shorter list
    if shortest.length = 1 then some (conditions.filterMap onNote?)
    else some [.inList (.column (some "n") "id") shortest]

/-- Whether conditions look for the id of the card in a list. -/
def listsCards (conditions : List Expr) : Bool :=
  conditions.any fun
    | .inList (.column (some "c") "id") _ => true
    | _ => false

/-- Whether a condition is about a row of a table. -/
def isAbout (shortName : String) (condition : Expr) : Bool :=
  Text.mentionsAlias condition.text shortName

/-- The tables whose rows conditions are tried on before other tables are looked at, and these
conditions in their order. What is asked of cards alone comes first, since a card leads to its note.
Where notes are listed, and cards are not, the notes are looked up before any card. -/
def firstTries (sources : From) (conditions : List Expr) : From × List Expr :=
  match noteTries? conditions, listsCards conditions with
  | some tries, false =>
    (sources.filter (·.1 == "n"), tries ++ conditions.filter (!isAbout "c" ·))
  | _, _ => (sources, conditions.filter (!isAbout "n" ·) ++ conditions.filter (isAbout "n"))

/-- Whether some choice of rows comes to a pattern that is too long; only notes are compared with
patterns. -/
def meetsLongPattern (tables : Tables) (parameters : List Value) (sources : From)
    (condition : Expr) : Bool :=
  let (sources, conditions) := firstTries sources (conjuncts condition)
  conditions.any (hasLongPattern parameters) &&
    (frames sources).any fun frame => triesLongPattern tables parameters frame conditions

end CardBrowser.Database
