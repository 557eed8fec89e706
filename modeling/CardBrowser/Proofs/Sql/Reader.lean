import Mathlib
import CardBrowser.Proofs.Outcome
import CardBrowser.Proofs.Sql.Lexing
import CardBrowser.Sql.Eval

/-!
# Reading the text of an expression

The text of an expression says what the expression says if parentheses stand where precedence asks
for them: `Readable`. The reader then reads the expression from its text, as `Readable.of_text` says,
but for negative numbers, which have a value of their own in the one and are negations in the other;
`eval_reading` says that this makes no difference.
-/

namespace CardBrowser.Sql

/-- How tightly an operator binds. -/
def BinaryOp.level : BinaryOp → Nat
  | or => 1
  | and => 2
  | equal | notEqual | is => 4
  | less | lessEqual | greater | greaterEqual => 5
  | add | sub => 6
  | mul | div => 7

/-- The tokens of integers with commas between them. -/
def Token.ofIntegers : List Int → List Token
  | [] => []
  | [n] => ofInteger n
  | n :: numbers => ofInteger n ++ symbol "," :: ofIntegers numbers

/-- A name that needs no quotes. -/
def isPlainName (name : String) : Bool :=
  Text.isName name.toList && !isReserved name

namespace Expr

/-- How tightly the outermost operator of an expression binds. -/
def level : Expr → Nat
  | integer n => if n < 0 then 7 else 8
  | binary op _ _ => op.level
  | not _ => 3
  | inList .. | like .. | glob .. => 4
  | _ => 8

/-- Expressions of plain names, numbers and placeholders in which no operator binds looser than one
that it stands under. Operators of one level are taken from the left. -/
inductive Readable : Expr → Prop
  | integer {n : Int} (h : Text.isInt64 n = true) : Readable (.integer n)
  | placeholder (number : Nat) : Readable (.placeholder number)
  | column {qualifier name : String} (hqualifier : isPlainName qualifier = true)
      (hname : isPlainName name = true) : Readable (.column (some qualifier) name)
  | paren {inner : Expr} (hinner : Readable inner) : Readable (.paren inner)
  | not {inner : Expr} (hinner : Readable inner) : Readable (.not (.paren inner))
  | binary {op : BinaryOp} {left right : Expr} (hop : op ≠ .is) (hleft : Readable left)
      (hright : Readable right) (hlooser : op.level ≤ left.level)
      (htighter : op.level < right.level) : Readable (.binary op left right)
  | inList {operand : Expr} {numbers : List Int} (hoperand : Readable operand)
      (hlooser : 4 ≤ operand.level) (hnumbers : numbers ≠ []) : Readable (.inList operand numbers)
  | like {operand pattern : Expr} (hoperand : Readable operand) (hpattern : Readable pattern)
      (hlooser : 4 ≤ operand.level) (htighter : 4 < pattern.level) :
      Readable (.like operand pattern)

/-- The tokens of the text of an expression. -/
def tokens : Expr → List Token
  | integer n => Token.ofInteger n
  | placeholder number => [.placeholder number]
  | column (some qualifier) name => [.name qualifier, .symbol ".", .name name]
  | paren inner => .symbol "(" :: (inner.tokens ++ [.symbol ")"])
  | not operand => .name "NOT" :: operand.tokens
  | binary op left right => left.tokens ++ .ofOperator op :: right.tokens
  | inList operand numbers =>
    operand.tokens ++ .name "IN" :: .symbol "(" :: (Token.ofIntegers numbers ++ [.symbol ")"])
  | like operand pattern =>
    operand.tokens ++ .name "LIKE" :: (pattern.tokens ++ [.name "ESCAPE", .string "\\"])
  | _ => []

/-- What is read from the text of an expression: a negative number is read as a negation. -/
def reading : Expr → Expr
  | integer n => if 0 ≤ n then .integer n else .negate (.integer (-n))
  | paren inner => .paren inner.reading
  | not operand => .not operand.reading
  | binary op left right => .binary op left.reading right.reading
  | inList operand numbers => .inList operand.reading numbers
  | like operand pattern => .like operand.reading pattern.reading
  | expr => expr

variable {expr : Expr}

/-! ## Values -/

/-- What is read has the value of the expression. -/
theorem eval_reading (h : expr.Readable) (tables : Tables) (parameters : List Value)
    (scope : Scope) :
    expr.reading.eval tables parameters scope = expr.eval tables parameters scope := by
  induction h with
  | @integer n h =>
      unfold reading
      split_ifs
      · rfl
      · show (Value.integer (-n)).negate = .integer n
        have hdifference : 0 - -n = n := by omega
        simp [Value.negate, Value.sub, Value.arithmetic, hdifference, h]
  | placeholder => rfl
  | column => rfl
  | _ => simp_all [reading, eval]

/-! ## Tokens -/

/-- Integers with commas between them are cut into their tokens. -/
theorem lexes_integers {numbers : List Int} (h : numbers ≠ []) :
    Token.Lexes (", ".intercalate (numbers.map toString)).toList (Token.ofIntegers numbers) := by
  rw [String.toList_intercalate]
  induction numbers with
  | nil => exact absurd rfl h
  | cons n numbers ih =>
      cases numbers with
      | nil =>
          have hsingle : ", ".toList.intercalate (([n].map toString).map String.toList) =
              (toString n).toList := by
            simp
          rw [hsingle]
          exact Token.lexes_integer n
      | cons m numbers =>
          have hcons : ", ".toList.intercalate (((n :: m :: numbers).map toString).map
              String.toList) = ((toString n).toList ++ [',']) ++ ' ' ::
                ", ".toList.intercalate (((m :: numbers).map toString).map String.toList) := by
            simp [List.intercalate]
          have htokens : Token.ofIntegers (n :: m :: numbers) =
              (Token.ofInteger n ++ [.symbol ","]) ++ Token.ofIntegers (m :: numbers) := by
            rw [Token.ofIntegers]
            · simp
            · simp
          rw [hcons, htokens]
          exact ((Token.lexes_integer n).closed (Or.inr rfl)).blank (ih (by simp))

/-- The text of an expression is cut into its tokens. -/
theorem Readable.lexes (h : expr.Readable) : Token.Lexes expr.text.toList expr.tokens := by
  induction h with
  | integer => exact Token.lexes_integer _
  | placeholder number =>
      have htext : (Expr.placeholder number).text.toList = '?' :: Nat.toDigits 10 number := by
        show ("?" ++ number.repr).toList = _
        rw [String.toList_append, Nat.toList_repr]
        rfl
      rw [htext]
      exact Token.lexes_placeholder number
  | @column qualifier name hqualifier hname =>
      have htext : (Expr.column (some qualifier) name).text.toList =
          qualifier.toList ++ '.' :: name.toList := by
        show (qualifier ++ "." ++ name).toList = _
        simp
      rw [htext]
      exact Token.lexes_column (Bool.and_eq_true_iff.1 hqualifier).1
        (Bool.and_eq_true_iff.1 hname).1
  | @paren inner hinner ih =>
      have htext : (Expr.paren inner).text.toList = '(' :: (inner.text.toList ++ [')']) := by
        show ("(" ++ inner.text ++ ")").toList = _
        simp
      rw [htext]
      exact (ih.closed (Or.inl rfl)).opened
  | @not inner hinner ih =>
      have htext : (Expr.not (.paren inner)).text.toList =
          "NOT".toList ++ ' ' :: ('(' :: (inner.text.toList ++ [')'])) := by
        show ("NOT " ++ ("(" ++ inner.text ++ ")")).toList = _
        simp
      rw [htext]
      exact (Token.lexes_name (by decide)).blank (ih.closed (Or.inl rfl)).opened
  | @binary op left right hop hleft hright hlooser htighter ihleft ihright =>
      have htext : (Expr.binary op left right).text.toList =
          left.text.toList ++ ' ' :: (op.symbol.toList ++ ' ' :: right.text.toList) := by
        show (left.text ++ " " ++ op.symbol ++ " " ++ right.text).toList = _
        simp
      rw [htext]
      exact ihleft.blank ((Token.lexes_operator op).blank ihright)
  | @inList operand numbers hoperand hlooser hnumbers ih =>
      have htext : (Expr.inList operand numbers).text.toList =
          operand.text.toList ++ ' ' :: ("IN".toList ++ ' ' ::
            ('(' :: ((", ".intercalate (numbers.map toString)).toList ++ [')']))) := by
        show (operand.text ++ " IN (" ++ ", ".intercalate (numbers.map toString) ++ ")").toList = _
        simp
      rw [htext]
      exact ih.blank ((Token.lexes_name (by decide)).blank
        ((lexes_integers hnumbers).closed (Or.inl rfl)).opened)
  | @like operand pattern hoperand hpattern hlooser htighter ihoperand ihpattern =>
      have htext : (Expr.like operand pattern).text.toList =
          operand.text.toList ++ ' ' :: ("LIKE".toList ++ ' ' :: (pattern.text.toList ++ ' ' ::
            ("ESCAPE".toList ++ ' ' :: "'\\'".toList))) := by
        show (operand.text ++ " LIKE " ++ pattern.text ++ " ESCAPE '\\'").toList = _
        simp
      rw [htext]
      exact ihoperand.blank ((Token.lexes_name (by decide)).blank (ihpattern.blank
        ((Token.lexes_name (by decide)).blank Token.lexes_escape)))

/-! ## Readers -/

/-- Whether the operators of a level and all tighter ones have come to an end. -/
def stopsAt (level : Nat) : List Token → Bool
  | .symbol s :: _ => (operator? s).all fun (_, tightness) => decide (tightness < level)
  | .name word :: _ =>
    match wordOperator? word with
    | some (_, tightness) => decide (tightness < level)
    | none =>
      Text.foldText word != "collate" &&
        (decide (4 < level) || !(["not", "in", "glob", "like"].contains (Text.foldText word)))
  | _ => true

/-- How many steps an expression takes to be read. -/
def cost : Expr → Nat
  | integer n => if 0 ≤ n then 2 else 4
  | paren inner => inner.cost + 2
  | not operand => operand.cost + 2
  | binary _ left right => left.cost + right.cost + 1
  | inList operand _ => operand.cost + 2
  | like operand pattern => operand.cost + pattern.cost + 2
  | _ => 2

variable {fuel level : Nat} {left : Expr} {rest : List Token}

/-- What stops at a level stops at the looser ones. -/
theorem stops_at_mono {other : Nat} (h : stopsAt level rest = true) (hle : level ≤ other) :
    stopsAt other rest = true := by
  unfold stopsAt at h ⊢
  split
  · rename_i s _
    cases hop : operator? s with
    | none => rfl
    | some found =>
        simp only [hop, Option.all_some, decide_eq_true_eq] at h ⊢
        omega
  · rename_i word _
    cases hop : wordOperator? word with
    | none =>
        simp only [hop, Bool.and_eq_true, Bool.or_eq_true, decide_eq_true_eq] at h ⊢
        exact ⟨h.1, h.2.imp_left fun hlt => hlt.trans_le hle⟩
    | some found =>
        simp only [hop, decide_eq_true_eq] at h ⊢
        omega
  · rfl

/-- No operator is as tight as `NOT`. -/
theorem stops_at_not (h : stopsAt 4 rest = true) : stopsAt 3 rest = true := by
  unfold stopsAt at h ⊢
  split
  · rename_i s _
    have hne : ∀ found, operator? s = some found → found.2 ≠ 3 := by
      intro found hfound
      unfold operator? at hfound
      split at hfound <;> cases hfound <;> decide
    cases hop : operator? s with
    | none => rfl
    | some found =>
        have := hne found hop
        simp only [hop, Option.all_some, decide_eq_true_eq] at h ⊢
        omega
  · rename_i word _
    have hne : ∀ found, wordOperator? word = some found → found.2 ≠ 3 := by
      intro found hfound
      unfold wordOperator? at hfound
      split at hfound <;> cases hfound <;> decide
    cases hop : wordOperator? word with
    | none =>
        simp only [hop, lt_irrefl, decide_false, Bool.false_or, Bool.and_eq_true] at h
        simp only [h.1, h.2, Bool.or_true, Bool.and_self]
    | some found =>
        have := hne found hop
        simp only [hop, decide_eq_true_eq] at h ⊢
        omega
  · rfl

/-- No operator is read where the operators have come to an end. -/
theorem read_operators_stop (h : stopsAt level rest = true) :
    readOperators (fuel + 1) level left rest = .ok (left, rest) := by
  unfold readOperators
  split
  · rename_i s later
    cases hop : operator? s with
    | none => rfl
    | some found =>
        have hlt : ¬ level ≤ found.2 := by
          simpa [stopsAt, hop] using h
        simp only [hlt, if_false]
  · rename_i word later
    cases hop : wordOperator? word with
    | none =>
        simp only [stopsAt, hop, Bool.and_eq_true, bne_iff_ne, Bool.or_eq_true, decide_eq_true_eq,
          Bool.not_eq_true'] at h
        obtain ⟨hcollate, htest⟩ := h
        simp only
        split
        · cases ‹none = some _›
        · rename_i hword _
          rw [hword] at htest
          exact if_neg (not_le.2 (htest.resolve_right (by decide)))
        · rename_i hword _
          exact absurd hword hcollate
        · refine if_neg ?_
          rw [Bool.and_eq_true_iff, decide_eq_true_eq]
          rintro ⟨hlevel, hmem⟩
          have hnone := htest.resolve_left (not_lt.2 hlevel)
          rw [List.contains_cons, hmem, Bool.or_true] at hnone
          cases hnone
    | some found =>
        have hlt : ¬ level ≤ found.2 := by
          simpa [stopsAt, hop] using h
        simp only [hlt, if_false]
  · rfl

/-- The token of an operator is known as the operator. -/
theorem of_operator_cases (op : BinaryOp) :
    (Token.ofOperator op = .symbol op.symbol ∧ operator? op.symbol = some (op, op.level)) ∨
      (Token.ofOperator op = .name op.symbol ∧ wordOperator? op.symbol = some (op, op.level)) := by
  cases op <;> decide

/-- An operator stops what is tighter. -/
theorem stops_at_operator {op : BinaryOp} (h : op.level < level) :
    stopsAt level (.ofOperator op :: rest) = true := by
  rcases of_operator_cases op with ⟨htoken, hop⟩ | ⟨htoken, hop⟩
  · rw [htoken]
    simp [stopsAt, hop, h]
  · rw [htoken]
    simp [stopsAt, hop, h]

/-- An operator is read with its right operand. -/
theorem read_operator {op : BinaryOp} (hop : op ≠ .is) (hlevel : level ≤ op.level) :
    readOperators (fuel + 1) level left (.ofOperator op :: rest) =
      (readExpr fuel (op.level + 1) rest >>= fun (right, later) =>
        readOperators fuel level (.binary op left right) later) := by
  rcases of_operator_cases op with ⟨htoken, hfound⟩ | ⟨htoken, hfound⟩
  · rw [htoken, readOperators]
    simp only [hfound, hlevel, if_true]
  · rw [htoken, readOperators]
    simp only [hfound, hlevel, hop, if_true, if_false]
    rfl

/-- A comparison with a list or a pattern is read as one test. -/
theorem read_operators_test {word : String} (hword : word = "IN" ∨ word = "LIKE")
    (hlevel : level ≤ 4) :
    readOperators (fuel + 1) level left (.name word :: rest) =
      (readTest fuel left (.name word :: rest) >>= fun (test, later) =>
        readOperators fuel level test later) := by
  rcases hword with rfl | rfl
  · have hfold : Text.foldText "IN" = "in" := by decide
    have hnone : wordOperator? "IN" = none := by decide
    rw [readOperators]
    simp [hfold, hnone, hlevel]
  · have hfold : Text.foldText "LIKE" = "like" := by decide
    have hnone : wordOperator? "LIKE" = none := by decide
    rw [readOperators]
    simp [hfold, hnone, hlevel]

/-- An integer is read from its tokens. -/
theorem read_integer (n : Int) : readInteger (Token.ofInteger n ++ rest) = .ok (n, rest) := by
  unfold Token.ofInteger
  split_ifs with hsign
  · rfl
  · show Except.ok (- -n, rest) = _
    rw [neg_neg]

/-- Integers are read from their tokens up to the closing parenthesis. -/
theorem read_items_integers {numbers : List Int} (hnumbers : numbers ≠ [])
    (hfuel : numbers.length ≤ fuel) :
    readItems readInteger fuel (Token.ofIntegers numbers ++ .symbol ")" :: rest) =
      .ok (numbers, .symbol ")" :: rest) := by
  induction numbers generalizing fuel with
  | nil => exact absurd rfl hnumbers
  | cons n numbers ih =>
      cases fuel with
      | zero => cases hfuel
      | succ fuel =>
          rw [readItems]
          cases numbers with
          | nil =>
              rw [Token.ofIntegers, read_integer]
              rfl
          | cons m numbers =>
              have htokens : Token.ofIntegers (n :: m :: numbers) ++ .symbol ")" :: rest =
                  Token.ofInteger n ++ .symbol "," ::
                    (Token.ofIntegers (m :: numbers) ++ .symbol ")" :: rest) := by
                rw [Token.ofIntegers]
                · simp
                · simp
              rw [htokens, read_integer, Except.ok_bind]
              simp only [ih (by simp) (Nat.le_of_succ_le_succ hfuel)]
              rfl

/-- There are at least as many tokens as integers. -/
theorem length_of_integers (numbers : List Int) :
    numbers.length ≤ (Token.ofIntegers numbers).length := by
  have hpositive : ∀ n, 1 ≤ (Token.ofInteger n).length := by
    intro n
    unfold Token.ofInteger
    split_ifs <;> simp
  induction numbers with
  | nil => exact Nat.zero_le _
  | cons n numbers ih =>
      cases numbers with
      | nil => exact hpositive n
      | cons m numbers =>
          rw [Token.ofIntegers]
          · have := hpositive n
            simp only [List.length_cons, List.length_append] at ih ⊢
            omega
          · simp

/-- A list in parentheses is read as a list. -/
theorem read_test_in_list {numbers : List Int} (hnumbers : numbers ≠ []) :
    readTest (fuel + 1) left (.name "IN" :: .symbol "(" ::
        (Token.ofIntegers numbers ++ .symbol ")" :: rest)) = .ok (.inList left numbers, rest) := by
  have hlist : readList readInteger (Token.ofIntegers numbers ++ .symbol ")" :: rest) =
      .ok (numbers, rest) := by
    unfold readList readSeries
    rw [read_items_integers hnumbers]
    · rfl
    · have := length_of_integers numbers
      rw [List.length_append]
      omega
  have hin : startsWith "in" (.name "IN" :: .symbol "(" ::
      (Token.ofIntegers numbers ++ .symbol ")" :: rest)) = true := rfl
  rw [readTest, if_pos hin]
  show (readList readInteger (Token.ofIntegers numbers ++ .symbol ")" :: rest) >>= _) = _
  rw [hlist]
  rfl

/-- A pattern is read as one if it is read by itself. -/
theorem read_test_like {pattern : Expr} {tokens : List Token}
    (h : readExpr fuel 5 (tokens ++ [.name "ESCAPE", .string "\\"] ++ rest) =
      .ok (pattern, [.name "ESCAPE", .string "\\"] ++ rest)) :
    readTest (fuel + 1) left (.name "LIKE" :: (tokens ++ [.name "ESCAPE", .string "\\"] ++ rest)) =
      .ok (.like left pattern, rest) := by
  have hin : ∀ tokens, startsWith "in" (.name "LIKE" :: tokens) = false := fun _ => rfl
  have hglob : ∀ tokens, startsWith "glob" (.name "LIKE" :: tokens) = false := fun _ => rfl
  have hlike : ∀ tokens, startsWith "like" (.name "LIKE" :: tokens) = true := fun _ => rfl
  rw [readTest, if_neg (by simp [hin]), if_neg (by simp [hglob]), if_pos (hlike _), List.tail_cons,
    h]
  rfl

/-! ## Operands -/

/-- After an operand its operators are read. -/
theorem read_expr_of_operand {tokens : List Token} {operand : Expr}
    (h : readOperand fuel tokens = .ok (operand, rest)) :
    readExpr (fuel + 1) level tokens = readOperators fuel level operand rest := by
  rw [readExpr, h]
  rfl

/-- What stands in parentheses is read as an expression unless it is a nested select. -/
theorem read_operand_paren {tokens : List Token} {inner : Expr}
    (hselect : ∀ word, tokens.head? = some (.name word) → Text.foldText word ≠ "select")
    (h : readExpr fuel 1 tokens = .ok (inner, .symbol ")" :: rest)) :
    readOperand (fuel + 1) (.symbol "(" :: tokens) = .ok (.paren inner, rest) := by
  have hclose : (do
      let (found, later) ← readExpr fuel 1 tokens
      return (Expr.paren found, ← readSymbol ")" later)) = Except.ok (.paren inner, rest) := by
    rw [h]
    rfl
  by_cases hname : ∃ word later, tokens = .name word :: later
  · obtain ⟨word, later, rfl⟩ := hname
    rw [readOperand, if_neg (hselect word rfl)]
    exact hclose
  · rw [readOperand]
    · exact hclose
    · rintro word later htokens
      exact hname ⟨word, later, htokens⟩

/-- `NOT` is read with what stands in parentheses after it. -/
theorem read_operand_not {tokens : List Token} {operand : Expr}
    (h : readExpr fuel 3 (.symbol "(" :: tokens) = .ok (operand, rest)) :
    readOperand (fuel + 1) (.name "NOT" :: .symbol "(" :: tokens) = .ok (.not operand, rest) := by
  have hfold : Text.foldText "NOT" = "not" := by decide
  have hfunction : function? "NOT" = none := by decide
  rw [readOperand]
  simp only [hfold, hfunction, h]
  rfl

/-- A qualified name is read as a column. -/
theorem read_operand_column {qualifier name : String} (hqualifier : isPlainName qualifier = true)
    (hname : isPlainName name = true) :
    readOperand (fuel + 1) (.name qualifier :: .symbol "." :: .name name :: rest) =
      .ok (.column (some qualifier) name, rest) := by
  obtain ⟨-, hqualifier⟩ := Bool.and_eq_true_iff.1 hqualifier
  obtain ⟨-, hname⟩ := Bool.and_eq_true_iff.1 hname
  rw [Bool.not_eq_true'] at hqualifier hname
  rw [readOperand]
  simp [readWord, readName, Token.name?, hqualifier, hname, pure, Except.pure]

/-! ## Expressions -/

/-- The text of an expression does not begin like a nested select. -/
theorem Readable.not_select (h : expr.Readable) (rest : List Token) (word : String)
    (hhead : (expr.tokens ++ rest).head? = some (.name word)) : Text.foldText word ≠ "select" := by
  induction h generalizing rest with
  | @integer n h =>
      unfold tokens Token.ofInteger at hhead
      split_ifs at hhead <;> cases hhead
  | placeholder => cases hhead
  | @column qualifier name hqualifier hname =>
      obtain rfl : qualifier = word := by
        cases hhead
        rfl
      intro hselect
      have hreserved : isReserved qualifier = true := by
        unfold isReserved
        rw [hselect]
        decide
      simp [isPlainName, hreserved] at hqualifier
  | paren => cases hhead
  | not =>
      cases hhead
      decide
  | binary hop hleft hright hlooser htighter ihleft ihright =>
      rw [tokens, List.append_assoc] at hhead
      exact ihleft _ hhead
  | inList hoperand hlooser hnumbers ih =>
      rw [tokens, List.append_assoc] at hhead
      exact ih _ hhead
  | like hoperand hpattern hlooser htighter ihoperand ihpattern =>
      rw [tokens, List.append_assoc] at hhead
      exact ihoperand _ hhead

/-- The reader goes through the tokens of an expression and on to the operators that follow, in no
more steps than the expression takes. -/
def ReadsBack (expr : Expr) : Prop :=
  ∀ (fuel level : Nat) (rest : List Token), expr.cost ≤ fuel → level ≤ expr.level →
    stopsAt (expr.level + 1) rest = true →
      ∃ remaining, fuel + 1 ≤ remaining + expr.cost ∧
        readExpr fuel level (expr.tokens ++ rest) =
          readOperators remaining level expr.reading rest

variable {operand pattern inner right : Expr} {numbers : List Int}

/-- An expression is read up to where its operators end. -/
theorem ReadsBack.whole (h : expr.ReadsBack) (hfuel : expr.cost ≤ fuel)
    (hlevel : level ≤ expr.level) (hrest : stopsAt level rest = true) :
    readExpr fuel level (expr.tokens ++ rest) = .ok (expr.reading, rest) := by
  obtain ⟨remaining, hremaining, hread⟩ :=
    h _ _ _ hfuel hlevel (stops_at_mono hrest (Nat.le_succ_of_le hlevel))
  obtain ⟨remaining, rfl⟩ := Nat.exists_eq_add_of_le' (show 1 ≤ remaining by omega)
  rw [hread, read_operators_stop hrest]

/-- Every expression is read at the loosest level. -/
theorem level_pos (expr : Expr) : 1 ≤ expr.level := by
  unfold level
  split
  · split_ifs <;> decide
  · rename_i op _ _
    cases op <;> decide
  all_goals decide

/-- An integer is an operand, and so is the negation of one. -/
theorem reads_back_integer (n : Int) : (Expr.integer n).ReadsBack := by
  intro fuel level rest hfuel hlevel hrest
  by_cases hsign : 0 ≤ n
  · have htokens : (Expr.integer n).tokens = [.integer n] := if_pos hsign
    have hreading : (Expr.integer n).reading = .integer n := if_pos hsign
    have hcost : (Expr.integer n).cost = 2 := if_pos hsign
    rw [hcost] at hfuel ⊢
    obtain ⟨fuel, rfl⟩ := Nat.exists_eq_add_of_le' hfuel
    rw [htokens, hreading]
    exact ⟨fuel + 1, le_rfl, read_expr_of_operand rfl⟩
  · have htokens : (Expr.integer n).tokens = [.symbol "-", .integer (-n)] := if_neg hsign
    have hreading : (Expr.integer n).reading = .negate (.integer (-n)) := if_neg hsign
    have hcost : (Expr.integer n).cost = 4 := if_neg hsign
    have htight : (Expr.integer n).level = 7 := if_pos (not_le.1 hsign)
    rw [hcost] at hfuel ⊢
    rw [htight] at hrest
    obtain ⟨fuel, rfl⟩ := Nat.exists_eq_add_of_le' hfuel
    have hnumber : readExpr (fuel + 2) 8 (.integer (-n) :: rest) = .ok (.integer (-n), rest) := by
      have hoperand : readOperand (fuel + 1) (.integer (-n) :: rest) = .ok (.integer (-n), rest) :=
        rfl
      rw [read_expr_of_operand hoperand, read_operators_stop hrest]
    have hoperand : readOperand (fuel + 3) (.symbol "-" :: .integer (-n) :: rest) =
        .ok (.negate (.integer (-n)), rest) := by
      rw [readOperand, hnumber]
      rfl
    rw [htokens, hreading]
    exact ⟨fuel + 3, by omega, read_expr_of_operand hoperand⟩

/-- What stands in parentheses is an operand. -/
theorem ReadsBack.paren (h : inner.ReadsBack) (hinner : inner.Readable) :
    (Expr.paren inner).ReadsBack := by
  intro fuel level rest hfuel hlevel hrest
  obtain ⟨fuel, rfl⟩ := Nat.exists_eq_add_of_le' (show 2 ≤ fuel from le_of_add_le_right hfuel)
  have hwhole : readExpr fuel 1 (inner.tokens ++ .symbol ")" :: rest) =
      .ok (inner.reading, .symbol ")" :: rest) :=
    h.whole (Nat.le_of_add_le_add_right hfuel) (level_pos inner) rfl
  have hoperand := read_operand_paren (hinner.not_select _) hwhole
  have htokens : (Expr.paren inner).tokens ++ rest =
      .symbol "(" :: (inner.tokens ++ .symbol ")" :: rest) := by
    simp [tokens]
  rw [htokens]
  exact ⟨fuel + 1, by simp only [cost]; omega, read_expr_of_operand hoperand⟩

/-- A negation of what stands in parentheses goes no further than these. -/
theorem ReadsBack.not (h : (Expr.paren inner).ReadsBack) : (Expr.not (.paren inner)).ReadsBack := by
  intro fuel level rest hfuel hlevel hrest
  obtain ⟨fuel, rfl⟩ := Nat.exists_eq_add_of_le' (show 2 ≤ fuel from le_of_add_le_right hfuel)
  have hparen : readExpr fuel 3 ((Expr.paren inner).tokens ++ rest) =
      .ok ((Expr.paren inner).reading, rest) :=
    h.whole (Nat.le_of_add_le_add_right hfuel) (show 3 ≤ 8 by decide) (stops_at_not hrest)
  exact ⟨fuel + 1, by simp only [cost]; omega, read_expr_of_operand (read_operand_not hparen)⟩

/-- An operator is read after its left operand, and ends with its right one. -/
theorem ReadsBack.binary {op : BinaryOp} (hleft : left.ReadsBack) (hright : right.ReadsBack)
    (hop : op ≠ .is) (hlooser : op.level ≤ left.level) (htighter : op.level < right.level) :
    (Expr.binary op left right).ReadsBack := by
  intro fuel level rest hfuel hlevel hrest
  have hcost : (Expr.binary op left right).cost = left.cost + right.cost + 1 := rfl
  rw [hcost] at hfuel ⊢
  obtain ⟨remaining, hremaining, hread⟩ :=
    hleft fuel level (.ofOperator op :: (right.tokens ++ rest)) (by omega) (hlevel.trans hlooser)
      (stops_at_operator (Nat.lt_succ_of_le hlooser))
  obtain ⟨remaining, rfl⟩ := Nat.exists_eq_add_of_le' (show 1 ≤ remaining by omega)
  have hwhole : readExpr remaining (op.level + 1) (right.tokens ++ rest) =
      .ok (right.reading, rest) := hright.whole (by omega) htighter hrest
  refine ⟨remaining, by omega, ?_⟩
  rw [tokens, List.append_assoc, List.cons_append, hread, read_operator hop hlevel, hwhole]
  rfl

/-- A comparison with a list is read after its operand. -/
theorem ReadsBack.inList (h : operand.ReadsBack) (hlooser : 4 ≤ operand.level)
    (hnumbers : numbers ≠ []) : (Expr.inList operand numbers).ReadsBack := by
  intro fuel level rest hfuel hlevel hrest
  have hcost : (Expr.inList operand numbers).cost = operand.cost + 2 := rfl
  rw [hcost] at hfuel ⊢
  have hin : stopsAt (operand.level + 1) (.name "IN" :: .symbol "(" ::
      (Token.ofIntegers numbers ++ .symbol ")" :: rest)) = true :=
    stops_at_mono (show stopsAt 5 _ = true from rfl) (Nat.succ_le_succ hlooser)
  obtain ⟨remaining, hremaining, hread⟩ :=
    h fuel level _ (by omega) (hlevel.trans hlooser) hin
  obtain ⟨remaining, rfl⟩ := Nat.exists_eq_add_of_le' (show 2 ≤ remaining by omega)
  have htokens : (Expr.inList operand numbers).tokens ++ rest = operand.tokens ++ .name "IN" ::
      .symbol "(" :: (Token.ofIntegers numbers ++ .symbol ")" :: rest) := by
    simp [tokens]
  refine ⟨remaining + 1, by omega, ?_⟩
  rw [htokens, hread, read_operators_test (Or.inl rfl) hlevel, read_test_in_list hnumbers]
  rfl

/-- A comparison with a pattern is read after its operand. -/
theorem ReadsBack.like (h : operand.ReadsBack) (hpattern : pattern.ReadsBack)
    (hlooser : 4 ≤ operand.level) (htighter : 4 < pattern.level) :
    (Expr.like operand pattern).ReadsBack := by
  intro fuel level rest hfuel hlevel hrest
  have hcost : (Expr.like operand pattern).cost = operand.cost + pattern.cost + 2 := rfl
  rw [hcost] at hfuel ⊢
  have hlike : stopsAt (operand.level + 1) (.name "LIKE" ::
      (pattern.tokens ++ [.name "ESCAPE", .string "\\"] ++ rest)) = true :=
    stops_at_mono (show stopsAt 5 _ = true from rfl) (Nat.succ_le_succ hlooser)
  obtain ⟨remaining, hremaining, hread⟩ :=
    h fuel level _ (by omega) (hlevel.trans hlooser) hlike
  obtain ⟨remaining, rfl⟩ := Nat.exists_eq_add_of_le' (show 2 ≤ remaining by omega)
  have hwhole : readExpr remaining 5
      (pattern.tokens ++ [.name "ESCAPE", .string "\\"] ++ rest) =
        .ok (pattern.reading, [.name "ESCAPE", .string "\\"] ++ rest) := by
    rw [List.append_assoc]
    exact hpattern.whole (by omega) htighter rfl
  have htokens : (Expr.like operand pattern).tokens ++ rest = operand.tokens ++ .name "LIKE" ::
      (pattern.tokens ++ [.name "ESCAPE", .string "\\"] ++ rest) := by
    simp [tokens]
  refine ⟨remaining + 1, by omega, ?_⟩
  rw [htokens, hread, read_operators_test (Or.inr rfl) hlevel, read_test_like hwhole]
  rfl

/-- The text of a readable expression is read back. -/
theorem Readable.reads_back (h : expr.Readable) : expr.ReadsBack := by
  induction h with
  | integer => exact reads_back_integer _
  | placeholder =>
      intro fuel level rest hfuel hlevel hrest
      obtain ⟨fuel, rfl⟩ := Nat.exists_eq_add_of_le' hfuel
      exact ⟨fuel + 1, le_rfl, read_expr_of_operand rfl⟩
  | column hqualifier hname =>
      intro fuel level rest hfuel hlevel hrest
      obtain ⟨fuel, rfl⟩ := Nat.exists_eq_add_of_le' hfuel
      exact ⟨fuel + 1, le_rfl, read_expr_of_operand (read_operand_column hqualifier hname)⟩
  | paren hinner ih => exact ih.paren hinner
  | not hinner ih => exact (ih.paren hinner).not
  | binary hop hleft hright hlooser htighter ihleft ihright =>
      exact ihleft.binary ihright hop hlooser htighter
  | inList hoperand hlooser hnumbers ih => exact ih.inList hlooser hnumbers
  | like hoperand hpattern hlooser htighter ihoperand ihpattern =>
      exact ihoperand.like ihpattern hlooser htighter

/-- An expression takes at most two steps for each of its tokens. -/
theorem Readable.cost_le (h : expr.Readable) : expr.cost ≤ 2 * expr.tokens.length := by
  induction h with
  | @integer n h =>
      unfold cost tokens Token.ofInteger
      split_ifs <;> simp
  | placeholder => exact le_rfl
  | column => exact (show 2 ≤ 6 by decide)
  | _ =>
      simp only [cost, tokens, List.length_append, List.length_cons, List.length_nil] at *
      omega

/-- From the text of a readable expression the expression is read. -/
theorem Readable.of_text (h : expr.Readable) : ofText? expr.text = some expr.reading := by
  have hcost := h.cost_le
  have hfuel : expr.cost ≤ readerFuel expr.tokens := by
    unfold readerFuel
    omega
  have hread := h.reads_back.whole hfuel (level_pos expr) (show stopsAt 1 [] = true from rfl)
  rw [List.append_nil] at hread
  unfold ofText? wholeText? readCondition
  rw [h.lexes.of_text, hread]

end Expr

end CardBrowser.Sql
