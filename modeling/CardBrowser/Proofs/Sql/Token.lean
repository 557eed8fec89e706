import Mathlib
import CardBrowser.Search.Statement
import CardBrowser.Sql.Definition

/-!
# Tokens of the statements about sort tables

The name of a sort table is put into statements as it is written. `of_text_drop` reads the statement
that drops the table up to that name. A plain identifier is a token of its own in both statements,
as `of_chars_name` says.
-/

namespace CardBrowser.Sql.Token

open CardBrowser.Search

variable {fuel : Nat} {first : Char} {others rest : List Char}

/-- A text without a NUL in front of another one stands before its NUL as well. -/
theorem before_nul_append {text : List Char} (h : ∀ c ∈ text, c ≠ '\x00') :
    beforeNul (text ++ rest) = text ++ beforeNul rest := by
  unfold beforeNul
  rw [List.takeWhile_append_of_pos (by simpa using h)]

/-- A character of an identifier continues a name and is no NUL. -/
theorem continues_name_of_is_name_part {c : Char} (h : Text.isNamePart c = true) :
    continuesName c = true ∧ c ≠ '\x00' ∧ c ≠ '\'' := by
  refine ⟨?_, ?_, ?_⟩
  · unfold Text.isNamePart at h
    unfold continuesName beginsName
    rcases Bool.or_eq_true_iff.1 h with h | h <;> simp [h]
  · rintro rfl
    exact absurd h (by decide)
  · rintro rfl
    exact absurd h (by decide)

/-- No name begins with a digit. -/
theorem not_digit_of_is_name_start {c : Char} (h : Text.isNameStart c = true) :
    Text.isDigit c = false := by
  by_contra hdigit
  simp only [Text.isDigit, Text.isNameStart, Bool.not_eq_false, Bool.and_eq_true, Bool.or_eq_true,
    decide_eq_true_eq, beq_iff_eq, Char.le_def, UInt32.le_iff_toNat_le] at h hdigit
  rcases h with (h | h) | rfl
  · have := hdigit.2.trans (show '9'.val.toNat ≤ 57 by decide)
    have := (show 65 ≤ 'A'.val.toNat by decide).trans h.1
    omega
  · have := hdigit.2.trans (show '9'.val.toNat ≤ 57 by decide)
    have := (show 97 ≤ 'a'.val.toNat by decide).trans h.1
    omega
  · exact absurd hdigit (by decide)

/-- An identifier that nothing continues is the first token. -/
theorem of_chars_name (hfirst : Text.isNameStart first = true)
    (hothers : others.all Text.isNamePart = true)
    (hrest : rest.head?.any continuesName = false) (hquote : rest.head? ≠ some '\'') :
    ofChars (fuel + 1) (first :: (others ++ rest)) =
      name (String.ofList (first :: others)) :: ofChars fuel rest := by
  have hcontinues : ∀ c ∈ others, continuesName c = true := fun c hmem =>
    (continues_name_of_is_name_part (List.all_eq_true.1 hothers c hmem)).1
  have htake : (others ++ rest).takeWhile continuesName = others := by
    rw [List.takeWhile_append_of_pos hcontinues]
    cases rest with
    | nil => simp
    | cons c rest => simp_all
  have hdrop : (others ++ rest).dropWhile continuesName = rest := by
    rw [List.dropWhile_append_of_pos hcontinues]
    cases rest with
    | nil => simp
    | cons c rest => simp_all
  have hmark : (others ++ rest).head? ≠ some '\'' := by
    cases others with
    | nil => exact hquote
    | cons c others =>
        intro heq
        have hpart := List.all_eq_true.1 hothers c List.mem_cons_self
        exact (continues_name_of_is_name_part hpart).2.2 (Option.some.inj heq)
  have hbegins : beginsName first = true := by simp [beginsName, hfirst]
  have hne : ∀ c, Text.isNameStart c = false → first ≠ c := by
    rintro c hc rfl
    rw [hc] at hfirst
    cases hfirst
  have hblank : beginsBlanks first = false := by
    simp [beginsBlanks, hne ' ' (by decide), hne '\t' (by decide), hne '\n' (by decide),
      hne '\r' (by decide), hne '\x0c' (by decide)]
  have hquoted : ((first == 'x' || first == 'X') &&
      (others ++ rest).head? == some '\'') = false := by
    simp only [beq_eq_false_iff_ne.2 hmark, Bool.and_false]
  rw [ofChars]
  · simp only [hblank, hquoted, hbegins, htake, hdrop, if_true, Bool.false_eq_true, if_false]
  · exact fun _ heq => absurd heq (hne '-' (by decide))
  · exact fun _ _ heq => absurd heq (hne '/' (by decide))
  · exact hne '\uFEFF' (by decide)

/-- The statement that drops a sort table up to the name of the table. -/
theorem of_text_drop (written : String) :
    ofText (Command.dropTable written).text =
      [name "DROP", name "TABLE", name "IF", name "EXISTS", name "temp"] ++
        ofChars ((beforeNul written.toList).length + 18) ('.' :: beforeNul written.toList) := by
  have hopening : ∀ (fuel : Nat) (rest : List Char),
      ofChars (fuel + 10) ("DROP TABLE IF EXISTS temp.".toList ++ rest) =
        [name "DROP", name "TABLE", name "IF", name "EXISTS", name "temp"] ++
          ofChars (fuel + 1) ('.' :: rest) := fun _ _ => rfl
  have hlength : ∀ rest : List Char, ("DROP TABLE IF EXISTS temp.".toList ++ rest).length + 1 =
      rest.length + 17 + 10 := by
    intro rest
    have hopening : "DROP TABLE IF EXISTS temp.".toList.length = 26 := rfl
    rw [List.length_append]
    omega
  show ofText ("DROP TABLE IF EXISTS temp." ++ written) = _
  unfold ofText
  rw [String.toList_append, before_nul_append (by simp)]
  simp only [hlength]
  exact hopening _ _

/-- A dot is a token of its own unless it begins a number. -/
theorem of_chars_dot (fuel : Nat) (rest : List Char) :
    (∃ later, ofChars (fuel + 1) ('.' :: rest) = symbol "." :: later) ∨
      ∃ digits places later, ofChars (fuel + 1) ('.' :: rest) = decimal digits places :: later := by
  have hmark : ofChars (fuel + 1) ('.' :: rest) =
      (readMark '.' rest).1 :: ofChars fuel (readMark '.' rest).2 := by
    rw [ofChars]
    · simp [show beginsBlanks '.' = false by decide, show beginsName '.' = false by decide,
        show Text.isDigit '.' = false by decide]
    all_goals simp
  rw [hmark]
  cases rest with
  | nil => exact Or.inl ⟨_, rfl⟩
  | cons c rest =>
      by_cases hdigit : Text.isDigit c = true
      · right
        simp only [readMark, if_pos hdigit]
        exact ⟨_, _, _, rfl⟩
      · left
        simp only [readMark, if_neg hdigit]
        exact ⟨_, rfl⟩

/-- The characters of an identifier, in which there is no NUL. -/
theorem chars_of_is_name {characters : List Char} (h : Text.isName characters = true) :
    ∃ first others, characters = first :: others ∧ Text.isNameStart first = true ∧
      others.all Text.isNamePart = true ∧ ∀ c ∈ characters, c ≠ '\x00' := by
  cases characters with
  | nil => cases h
  | cons first others =>
      obtain ⟨hfirst, hothers⟩ := Bool.and_eq_true_iff.1 h
      refine ⟨first, others, rfl, hfirst, hothers, fun c hmem => ?_⟩
      have hpart : Text.isNamePart c = true := by
        rcases List.mem_cons.1 hmem with rfl | hmem
        · unfold Text.isNamePart
          rw [hfirst, Bool.true_or]
        · exact List.all_eq_true.1 hothers c hmem
      exact (continues_name_of_is_name_part hpart).2.1

/-- An identifier is the last token of the statement that drops it. -/
theorem of_text_drop_name {written : String} (h : Text.isName written.toList = true) :
    ofText (Command.dropTable written).text =
      [name "DROP", name "TABLE", name "IF", name "EXISTS", name "temp", symbol ".",
        name written] := by
  obtain ⟨first, others, hwritten, hfirst, hothers, hnul⟩ := chars_of_is_name h
  have hbefore : beforeNul written.toList = first :: others := by
    have happend := @before_nul_append [] _ hnul
    rw [List.append_nil] at happend
    rw [happend, hwritten]
    exact List.append_nil _
  have hdigit : Text.isDigit first = false := not_digit_of_is_name_start hfirst
  have hname : ∀ fuel, ofChars (fuel + 1) (first :: others) = [name written] := by
    intro fuel
    have hchars := @of_chars_name fuel first others [] hfirst hothers rfl (by simp)
    rw [List.append_nil] at hchars
    rw [hchars, ← hwritten, String.ofList_toList]
    cases fuel <;> rfl
  have hdot : ∀ fuel, ofChars (fuel + 1) ('.' :: first :: others) =
      symbol "." :: ofChars fuel (first :: others) := by
    intro fuel
    have hmark : readMark '.' (first :: others) = (symbol ".", first :: others) := by
      simp [readMark, hdigit]
    rw [ofChars]
    · simp [hmark, show beginsBlanks '.' = false by decide, show beginsName '.' = false by decide,
        show Text.isDigit '.' = false by decide]
    all_goals simp
  rw [of_text_drop, hbefore, hdot, hname]
  rfl

/-- An identifier is the first token where `AS` follows it. -/
theorem of_text_name_as {written : String} (h : Text.isName written.toList = true) :
    ofText (written ++ " AS") = [name written, name "AS"] := by
  obtain ⟨first, others, hwritten, hfirst, hothers, hnul⟩ := chars_of_is_name h
  unfold ofText
  rw [String.toList_append, before_nul_append hnul, hwritten]
  show ofChars ((others ++ [' ', 'A', 'S']).length + 1 + 1)
    (first :: (others ++ [' ', 'A', 'S'])) = _
  rw [of_chars_name hfirst hothers (by decide) (by decide), ← hwritten, String.ofList_toList,
    List.length_append]
  rfl

end CardBrowser.Sql.Token
