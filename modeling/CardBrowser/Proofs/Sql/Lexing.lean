import Mathlib
import CardBrowser.Proofs.Sql.Token
import CardBrowser.Proofs.Text.Numerals
import CardBrowser.Sql.Expr

/-!
# The tokens of a text that is made of parts

`Lexes` says that a text is cut into some tokens wherever a blank, a closing parenthesis, a comma or
nothing follows it. Texts that are joined by a blank or a comma are cut into the tokens of their
parts, and so are texts in parentheses.
-/

namespace CardBrowser.Sql.Token

/-- Whether a text that comes before ends with its last token. -/
def endsToken (rest : List Char) : Bool :=
  rest.head?.all fun c => c == ' ' || c == ')' || c == ','

/-- A text is cut into tokens, and what may follow it is cut as it is without the text. -/
structure Lexes (text : List Char) (tokens : List Token) : Prop where
  noNul : '\x00' ∉ text
  begins : text.head?.any (fun c => !continuesBlanks c) = true
  /-- How many steps the text takes does not depend on what follows. -/
  cut : ∃ steps ≤ text.length, ∀ fuel rest, endsToken rest = true →
    ofChars (fuel + steps) (text ++ rest) = tokens ++ ofChars fuel rest

variable {a b text : List Char} {s t tokens : List Token} {fuel : Nat} {c : Char}
  {rest : List Char}

/-- What may follow a text. -/
theorem ends_token_cases (h : endsToken rest = true) :
    rest = [] ∨ ∃ later, rest = ' ' :: later ∨ rest = ')' :: later ∨ rest = ',' :: later := by
  cases rest with
  | nil => exact Or.inl rfl
  | cons c later =>
      refine Or.inr ⟨later, ?_⟩
      simpa [endsToken, or_assoc] using h

/-- A character that begins no longer token than a mark. -/
def isMark (c : Char) : Bool :=
  !beginsBlanks c && !beginsName c && !Text.isDigit c && c != '-' && c != '/' && c != '\uFEFF'

/-- A mark is read as one. -/
theorem of_chars_mark (h : isMark c = true) :
    ofChars (fuel + 1) (c :: rest) = (readMark c rest).1 :: ofChars fuel (readMark c rest).2 := by
  simp only [isMark, Bool.and_eq_true, Bool.not_eq_true', bne_iff_ne] at h
  obtain ⟨⟨⟨⟨⟨hblank, hname⟩, hdigit⟩, hdash⟩, hslash⟩, hmark⟩ := h
  have hquoted : ((c == 'x' || c == 'X') && rest.head? == some '\'') = false := by
    rw [Bool.and_eq_false_iff]
    refine Or.inl ?_
    by_contra hx
    rw [Bool.not_eq_false, Bool.or_eq_true_iff, beq_iff_eq, beq_iff_eq] at hx
    rcases hx with rfl | rfl
    · exact absurd hname (by decide)
    · exact absurd hname (by decide)
  rw [ofChars]
  · simp only [hblank, hquoted, hname, hdigit, Bool.false_eq_true, if_false]
  · exact fun _ heq => absurd heq hdash
  · exact fun _ _ heq => absurd heq hslash
  · exact hmark

/-- A text that is cut into tokens has no others. -/
theorem Lexes.of_text {sql : String} (h : Lexes sql.toList tokens) : ofText sql = tokens := by
  obtain ⟨steps, hsteps, hcut⟩ := h.cut
  have hbefore : beforeNul sql.toList = sql.toList :=
    List.takeWhile_eq_self_iff.2 fun c hmem => decide_eq_true (ne_of_mem_of_not_mem hmem h.noNul)
  have hfuel : sql.toList.length + 1 = (sql.toList.length - steps) + 1 + steps := by omega
  have hend := hcut (sql.toList.length - steps + 1) [] rfl
  unfold ofText
  rw [hbefore]
  rw [List.append_nil, ← hfuel] at hend
  rw [hend, ofChars, List.append_nil]

/-! ## Joined texts -/

/-- Two texts with a blank between them. -/
theorem Lexes.blank (ha : Lexes a s) (hb : Lexes b t) : Lexes (a ++ ' ' :: b) (s ++ t) where
  noNul := by simp [ha.noNul, hb.noNul]
  begins := by
    have hbegins := ha.begins
    cases a with
    | nil => cases hbegins
    | cons c a => exact hbegins
  cut := by
    obtain ⟨steps, hsteps, hcut⟩ := ha.cut
    obtain ⟨steps', hsteps', hcut'⟩ := hb.cut
    refine ⟨steps + 1 + steps', ?_, fun fuel rest hrest => ?_⟩
    · rw [List.length_append, List.length_cons]
      omega
    · -- The blanks end where the second text begins.
      have hdrop : (b ++ rest).dropWhile continuesBlanks = b ++ rest := by
        have hbegins := hb.begins
        cases b with
        | nil => cases hbegins
        | cons c b => exact List.dropWhile_cons_of_neg (by simpa using hbegins)
      have hblank : ofChars (fuel + steps' + 1) (' ' :: (b ++ rest)) =
          ofChars (fuel + steps') (b ++ rest) := by
        rw [ofChars]
        · rw [if_pos (by decide), hdrop]
        all_goals simp
      calc ofChars (fuel + (steps + 1 + steps')) (a ++ ' ' :: b ++ rest)
          = ofChars (fuel + steps' + 1 + steps) (a ++ ' ' :: (b ++ rest)) := by
            rw [List.append_assoc]
            congr 1
            omega
        _ = s ++ ofChars (fuel + steps' + 1) (' ' :: (b ++ rest)) := hcut _ _ rfl
        _ = s ++ (t ++ ofChars fuel rest) := by rw [hblank, hcut' fuel rest hrest]
        _ = s ++ t ++ ofChars fuel rest := (List.append_assoc ..).symm

/-- A text before a closing parenthesis or a comma. -/
theorem Lexes.closed (h : Lexes a s) (hc : c = ')' ∨ c = ',') :
    Lexes (a ++ [c]) (s ++ [symbol c.toString]) where
  noNul := by
    have hnul : '\x00' ≠ c := by
      rcases hc with rfl | rfl <;> decide
    simp [h.noNul, hnul]
  begins := by
    have hbegins := h.begins
    cases a with
    | nil => cases hbegins
    | cons c a => exact hbegins
  cut := by
    obtain ⟨steps, hsteps, hcut⟩ := h.cut
    refine ⟨steps + 1, ?_, fun fuel rest _ => ?_⟩
    · rw [List.length_append, List.length_singleton]
      omega
    · have hmark : ofChars (fuel + 1) (c :: rest) = symbol c.toString :: ofChars fuel rest := by
        rcases hc with rfl | rfl
        · exact of_chars_mark (by decide)
        · exact of_chars_mark (by decide)
      have hends : endsToken (c :: rest) = true := by
        rcases hc with rfl | rfl <;> rfl
      calc ofChars (fuel + (steps + 1)) (a ++ [c] ++ rest)
          = ofChars (fuel + 1 + steps) (a ++ c :: rest) := by
            rw [List.append_assoc]
            congr 1
            omega
        _ = s ++ symbol c.toString :: ofChars fuel rest := by rw [hcut _ _ hends, hmark]
        _ = s ++ [symbol c.toString] ++ ofChars fuel rest := by
            rw [List.append_assoc]
            rfl

/-- A text after an opening parenthesis. -/
theorem Lexes.opened (h : Lexes a s) : Lexes ('(' :: a) (symbol "(" :: s) where
  noNul := by simp [h.noNul]
  begins := rfl
  cut := by
    obtain ⟨steps, hsteps, hcut⟩ := h.cut
    refine ⟨steps + 1, Nat.succ_le_succ hsteps, fun fuel rest hrest => ?_⟩
    have hmark : ofChars (fuel + steps + 1) ('(' :: (a ++ rest)) =
        symbol "(" :: ofChars (fuel + steps) (a ++ rest) := of_chars_mark (by decide)
    exact hmark.trans (congrArg _ (hcut fuel rest hrest))

/-! ## Names -/

/-- No identifier begins with a blank. -/
theorem not_blank_of_is_name_start (h : Text.isNameStart c = true) : continuesBlanks c = false := by
  by_contra hblank
  simp only [continuesBlanks, beginsBlanks, Bool.not_eq_false, Bool.or_eq_true, beq_iff_eq]
    at hblank
  rcases hblank with ((((rfl | rfl) | rfl) | rfl) | rfl) | rfl <;> exact absurd h (by decide)

/-- An identifier ends where the text does. -/
theorem of_chars_word {word : String} (h : Text.isName word.toList = true)
    (hrest : rest.head?.any continuesName = false) (hquote : rest.head? ≠ some '\'') :
    ofChars (fuel + 1) (word.toList ++ rest) = name word :: ofChars fuel rest := by
  obtain ⟨first, others, hword, hfirst, hothers, -⟩ := chars_of_is_name h
  rw [hword, List.cons_append, of_chars_name hfirst hothers hrest hquote, ← hword,
    String.ofList_toList]

/-- An identifier has no NUL and begins with no blank. -/
theorem begins_of_is_name {word : List Char} (h : Text.isName word = true) :
    '\x00' ∉ word ∧ word.head?.any (fun c => !continuesBlanks c) = true ∧ 1 ≤ word.length := by
  obtain ⟨first, others, rfl, hfirst, -, hnul⟩ := chars_of_is_name h
  refine ⟨fun hmem => hnul _ hmem rfl, ?_, Nat.succ_le_succ (Nat.zero_le _)⟩
  show (!continuesBlanks first) = true
  rw [not_blank_of_is_name_start hfirst]
  rfl

/-- An identifier is one token. -/
theorem lexes_name {word : String} (h : Text.isName word.toList = true) :
    Lexes word.toList [name word] := by
  obtain ⟨hnul, hbegins, hlength⟩ := begins_of_is_name h
  refine ⟨hnul, hbegins, 1, hlength, fun fuel rest hrest => of_chars_word h ?_ ?_⟩
  · rcases ends_token_cases hrest with rfl | ⟨later, rfl | rfl | rfl⟩ <;> rfl
  · rcases ends_token_cases hrest with rfl | ⟨later, rfl | rfl | rfl⟩ <;> simp

/-- A qualified name is three tokens. -/
theorem lexes_column {qualifier column : String} (hqualifier : Text.isName qualifier.toList = true)
    (hcolumn : Text.isName column.toList = true) :
    Lexes (qualifier.toList ++ '.' :: column.toList)
      [name qualifier, symbol ".", name column] := by
  obtain ⟨hnul, hbegins, hlength⟩ := begins_of_is_name hqualifier
  obtain ⟨steps, hsteps, hcut⟩ := (lexes_name hcolumn).cut
  obtain ⟨first, others, hword, hfirst, -⟩ := chars_of_is_name hcolumn
  refine ⟨?_, ?_, steps + 2, ?_, fun fuel rest hrest => ?_⟩
  · simp [hnul, (lexes_name hcolumn).noNul]
  · rw [List.head?_append_of_ne_nil _ (List.ne_nil_of_length_pos hlength)]
    exact hbegins
  · rw [List.length_append, List.length_cons]
    omega
  · have hdot : readMark '.' (column.toList ++ rest) = (symbol ".", column.toList ++ rest) := by
      rw [hword]
      simp [readMark, not_digit_of_is_name_start hfirst]
    rw [List.append_assoc, List.cons_append, ← Nat.add_assoc, of_chars_word hqualifier rfl (by simp),
      of_chars_mark (by decide), hdot, hcut fuel rest hrest]
    rfl

/-! ## Numbers -/

/-- Digits end where the text does. -/
theorem take_digits {digits : List Char} (hdigits : ∀ c ∈ digits, Text.isDigit c = true)
    (hrest : endsToken rest = true) :
    (digits ++ rest).takeWhile Text.isDigit = digits ∧
      (digits ++ rest).dropWhile Text.isDigit = rest := by
  rw [List.takeWhile_append_of_pos hdigits, List.dropWhile_append_of_pos hdigits]
  rcases ends_token_cases hrest with rfl | ⟨later, rfl | rfl | rfl⟩ <;> simp [Text.isDigit]

/-- No digit begins another token than a number. -/
theorem of_chars_digit (h : Text.isDigit c = true) :
    ofChars (fuel + 1) (c :: rest) =
      (readNumber c rest).1 :: ofChars fuel (readNumber c rest).2 := by
  have hne : ∀ d, Text.isDigit d = false → c ≠ d := by
    rintro d hd rfl
    rw [hd] at h
    cases h
  have hname : beginsName c = false := by
    have hstart : Text.isNameStart c = false := by
      by_contra hstart
      rw [not_digit_of_is_name_start (Bool.not_eq_false _ ▸ hstart)] at h
      cases h
    have hsmall : c.toNat < 128 := by
      simp only [Text.isDigit, Bool.and_eq_true, decide_eq_true_eq, Char.le_def,
        UInt32.le_iff_toNat_le] at h
      have hnine : '9'.val.toNat = 57 := rfl
      have hval : c.toNat = c.val.toNat := rfl
      omega
    simp [beginsName, hstart, hsmall]
  have hblank : beginsBlanks c = false := by
    simp [beginsBlanks, hne ' ' (by decide), hne '\t' (by decide), hne '\n' (by decide),
      hne '\r' (by decide), hne '\x0c' (by decide)]
  have hquoted : ((c == 'x' || c == 'X') && rest.head? == some '\'') = false := by
    simp [hne 'x' (by decide), hne 'X' (by decide)]
  rw [ofChars]
  · simp only [hblank, hquoted, hname, h, Bool.false_eq_true, if_false, if_true]
  · exact fun _ heq => absurd heq (hne '-' (by decide))
  · exact fun _ _ heq => absurd heq (hne '/' (by decide))
  · exact hne '\uFEFF' (by decide)

/-- A natural number is one token. -/
theorem of_chars_natural (n : Nat) (hrest : endsToken rest = true) :
    ofChars (fuel + 1) (Nat.toDigits 10 n ++ rest) = integer n :: ofChars fuel rest := by
  have hdigits := Text.digits_of_natural n
  have hvalue := Text.digits_value_natural n
  obtain ⟨digit, others, hchars⟩ := List.exists_cons_of_ne_nil (@Nat.toDigits_ne_nil n 10)
  rw [hchars] at hdigits hvalue ⊢
  obtain ⟨hdigit, hothers⟩ := List.forall_mem_cons.1 hdigits
  obtain ⟨htake, hdrop⟩ := take_digits hothers hrest
  have hnumber : readNumber digit (others ++ rest) = (integer n, rest) := by
    unfold readNumber
    dsimp only
    rw [htake, hdrop, hvalue]
    rcases ends_token_cases hrest with rfl | ⟨later, rfl | rfl | rfl⟩ <;> rfl
  rw [List.cons_append, of_chars_digit hdigit, hnumber]

/-- Digits have no NUL and begin with no blank. -/
theorem begins_of_natural (n : Nat) :
    '\x00' ∉ Nat.toDigits 10 n ∧
      (Nat.toDigits 10 n).head?.any (fun c => !continuesBlanks c) = true ∧
      1 ≤ (Nat.toDigits 10 n).length := by
  have hdigits := Text.digits_of_natural n
  obtain ⟨digit, others, hchars⟩ := List.exists_cons_of_ne_nil (@Nat.toDigits_ne_nil n 10)
  rw [hchars] at hdigits ⊢
  have hne : ∀ c, Text.isDigit c = false → digit ≠ c := by
    rintro c hc rfl
    rw [hdigits _ List.mem_cons_self] at hc
    cases hc
  refine ⟨fun hmem => absurd (hdigits _ hmem) (by decide), ?_, Nat.succ_le_succ (Nat.zero_le _)⟩
  simp [continuesBlanks, beginsBlanks, hne ' ' (by decide), hne '\t' (by decide),
    hne '\n' (by decide), hne '\r' (by decide), hne '\x0c' (by decide), hne '\x0b' (by decide)]

/-- A minus sign is a mark unless it begins a comment. -/
theorem of_chars_minus (h : rest.head? ≠ some '-') :
    ofChars (fuel + 1) ('-' :: rest) = symbol "-" :: ofChars fuel rest := by
  rw [ofChars]
  · rfl
  · rintro later - rfl
    exact h rfl
  all_goals simp

/-- The tokens of an integer. -/
def ofInteger (n : Int) : List Token :=
  if 0 ≤ n then [integer n] else [symbol "-", integer (-n)]

/-- An integer is a natural number, with a minus sign before it if it is negative. -/
theorem lexes_integer (n : Int) : Lexes (toString n).toList (ofInteger n) := by
  rw [Int.toString_eq_repr, Int.repr_eq_if]
  unfold ofInteger
  split_ifs with hsign
  · obtain ⟨m, rfl⟩ := Int.eq_ofNat_of_zero_le hsign
    obtain ⟨hnul, hbegins, hlength⟩ := begins_of_natural m
    rw [Int.toNat_natCast, Nat.toList_repr]
    exact ⟨hnul, hbegins, 1, hlength, fun fuel rest hrest => of_chars_natural m hrest⟩
  · obtain ⟨m, hm⟩ := Int.eq_ofNat_of_zero_le (show 0 ≤ -n by omega)
    obtain ⟨hnul, -, hlength⟩ := begins_of_natural m
    rw [hm, Int.toNat_natCast, String.toList_append, Nat.toList_repr]
    refine ⟨?_, rfl, 2, ?_, fun fuel rest hrest => ?_⟩
    · simp [hnul]
    · rw [List.length_append]
      exact Nat.add_le_add (show 1 ≤ "-".toList.length by decide) hlength
    · have hdigit : (Nat.toDigits 10 m ++ rest).head? ≠ some '-' := by
        rw [List.head?_append_of_ne_nil _ Nat.toDigits_ne_nil]
        intro hhead
        exact absurd (Text.digits_of_natural m _ (List.mem_of_head? hhead)) (by decide)
      show ofChars (fuel + 1 + 1) ('-' :: (Nat.toDigits 10 m ++ rest)) = _
      rw [of_chars_minus hdigit, of_chars_natural m hrest]
      rfl

/-- A placeholder is one token. -/
theorem lexes_placeholder (n : Nat) : Lexes ('?' :: Nat.toDigits 10 n) [placeholder n] := by
  obtain ⟨hnul, hbegins, hlength⟩ := begins_of_natural n
  refine ⟨by simp [hnul], rfl, 1, Nat.succ_le_succ (Nat.zero_le _), fun fuel rest hrest => ?_⟩
  have hmark : readMark '?' (Nat.toDigits 10 n ++ rest) = (placeholder n, rest) := by
    obtain ⟨htake, hdrop⟩ := take_digits (Text.digits_of_natural n) hrest
    have hvalue := Text.digits_value_natural n
    obtain ⟨digit, others, hchars⟩ := List.exists_cons_of_ne_nil (@Nat.toDigits_ne_nil n 10)
    rw [hchars] at htake hdrop hvalue ⊢
    simp only [readMark, htake, hdrop, hvalue]
  show ofChars (fuel + 1) ('?' :: (Nat.toDigits 10 n ++ rest)) = _
  rw [of_chars_mark (by decide), hmark]
  rfl

/-! ## Operators -/

/-- The token of an operator. -/
def ofOperator (op : BinaryOp) : Token :=
  match op with
  | .or | .and | .is => name op.symbol
  | _ => symbol op.symbol

/-- An operator is one token. -/
theorem lexes_operator (op : BinaryOp) : Lexes op.symbol.toList [ofOperator op] := by
  cases op with
  | or => exact lexes_name (by decide)
  | and => exact lexes_name (by decide)
  | is => exact lexes_name (by decide)
  | _ =>
      refine ⟨by decide, by decide, 1, by decide, fun fuel rest hrest => ?_⟩
      rcases ends_token_cases hrest with rfl | ⟨later, rfl | rfl | rfl⟩ <;> rfl

/-- The escape character in quotes is one token. -/
theorem lexes_escape : Lexes "'\\'".toList [string "\\"] := by
  refine ⟨by decide, by decide, 1, by decide, fun fuel rest hrest => ?_⟩
  rcases ends_token_cases hrest with rfl | ⟨later, rfl | rfl | rfl⟩ <;> rfl

end CardBrowser.Sql.Token
