import CardBrowser.Search.Predicate
import CardBrowser.Search.Term

/-!
# The conditions of search terms

Every clause of a search becomes a condition on the card `c` and its note `n`. Texts, tags, decks,
ordinals and the current day are given as values of placeholders, so no part of a search text
stands in the SQL except the numbers of `nid:` and `cid:`.
-/

namespace CardBrowser.Search

open CardBrowser.Sql

/-- A search value as a pattern of `LIKE`: a star stands for any run of characters, and the
characters that mean something to `LIKE` are escaped. -/
def escapePattern : List Char → List Char
  | [] => []
  | c :: rest =>
    if c = '\\' ∨ c = '%' ∨ c = '_' then '\\' :: c :: escapePattern rest
    else if c = '*' then '%' :: escapePattern rest
    else c :: escapePattern rest

/-- A column of the card. -/
def cardColumn (name : String) : Expr := .column (some "c") name

/-- A column of the note. -/
def noteColumn (name : String) : Expr := .column (some "n") name

/-- The condition of a state. -/
def CardState.condition (today : Int) (next : Nat) : CardState → Expr × List Value
  | new => (.binary .equal (cardColumn "type") (.integer 0), [])
  | learn => (.inList (cardColumn "queue") [1, 3], [])
  | review => (.binary .equal (cardColumn "type") (.integer 2), [])
  | suspended => (.binary .equal (cardColumn "queue") (.integer (-1)), [])
  | due =>
    (.paren (.binary .and (.inList (cardColumn "queue") [2, 3])
      (.binary .lessEqual (cardColumn "due") (.placeholder next))), [.integer today])

/-- The condition of a term and the values of its placeholders, the next free placeholder being
`next`. -/
def Term.condition (today : Int) (next : Nat) : Term → Expr × List Value
  | text value =>
    (.paren (.binary .or (.like (noteColumn "sfld") (.placeholder next))
      (.like (noteColumn "flds") (.placeholder next))),
     [.text (String.ofList ('%' :: escapePattern value ++ ['%']))])
  | tag value =>
    (.like (noteColumn "tags") (.placeholder next),
     [.text (String.ofList ('%' :: ' ' :: escapePattern value ++ [' ', '%']))])
  | notes ids => (.inList (cardColumn "nid") ids, [])
  | cards ids => (.inList (cardColumn "id") ids, [])
  | deck id => (.binary .equal (cardColumn "did") (.placeholder next), [.integer id])
  | ordinal n => (.binary .equal (cardColumn "ord") (.placeholder next), [.integer n])
  | state wanted => wanted.condition today next

/-- The condition of a clause. -/
def Clause.condition (today : Int) (next : Nat) (clause : Clause) : Expr × List Value :=
  let (condition, values) := clause.term.condition today next
  (if clause.negated then .not (.paren condition) else condition, values)

/-- The conditions of clauses, whose placeholders are numbered in the order of the clauses. -/
def conditions (today : Int) (next : Nat) : List Clause → List Expr × List Value
  | [] => ([], [])
  | clause :: rest =>
    let (condition, values) := clause.condition today next
    let (others, later) := conditions today (next + values.length) rest
    (condition :: others, values ++ later)

/-- The conjunction of conditions. -/
def conjunction : List Expr → Expr
  | [] => .integer 1
  | condition :: rest => rest.foldl (.binary .and) condition

/-- The predicate that asks for all clauses. -/
def Predicate.ofClauses (today : Int) (clauses : List Clause) : Predicate :=
  let (conditions, values) := conditions today 1 clauses
  ⟨conjunction conditions, values⟩

/-- The predicate of a search text. `is:due` asks for cards that are due up to the given day. -/
def Predicate.ofText (today : Int) (text : String) : Except QueryError Predicate :=
  match clauses text.toList with
  | .ok clauses => .ok (Predicate.ofClauses today clauses)
  | .error fault => .error (.invalidSearch text fault)

end CardBrowser.Search
