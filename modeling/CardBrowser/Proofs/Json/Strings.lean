import Mathlib
import CardBrowser.Json.Interpretation
import CardBrowser.Json.Printer

/-!
# Written strings

Every text is read back from the string it is written as: the pieces that are read, `read_escaped`,
stand for its characters, `piece_text_of_pieces`.
-/

namespace CardBrowser.Json

variable {c : Char}

/-- How a character is read back: control characters that have no letter of their own are read as
the code units that they were escaped to. -/
def pieceOf (c : Char) : Piece :=
  if c.toNat < 0x20 ∧ c ≠ '\n' ∧ c ≠ '\r' ∧ c ≠ '\t' ∧ c ≠ '\x08' ∧ c ≠ '\x0c' then .unit c.toNat
  else .character c

/-- The pieces that a text is read back as. -/
def piecesOf (text : String) : List Piece :=
  text.toList.map pieceOf

/-- The characters of a text between the quotes. -/
def escaped (text : List Char) : List Char :=
  text.flatMap fun c => (escapeCharacter c).toList

/-- A text is written between quotes. -/
theorem to_list_string_text (text : String) :
    (stringText text).toList = '"' :: (escaped text.toList ++ ['"']) := by
  unfold stringText escaped
  rw [String.toList_append, String.toList_append, String.toList_join, List.flatMap_map]
  rfl

/-! ## Reading -/

/-- The code of a control character has two digits after two zeros. -/
theorem four_digits_of_control : ∀ code < 0x20, (fourDigits code).toList =
    ['0', '0', Nat.digitChar (code / 16), Nat.digitChar (code % 16)] := by
  decide

/-- A hexadecimal digit is read back. -/
theorem hex_digit_of_digit : ∀ n < 16, hexDigit? (Nat.digitChar n) = some n := by
  decide

/-- A control character is read back from its code. -/
theorem read_control (h : c.toNat < 0x20) (rest : List Char) :
    readPieces? ('\\' :: 'u' :: ((fourDigits c.toNat).toList ++ rest)) =
      (readPieces? rest).map fun found => (.unit c.toNat :: found.1, found.2) := by
  have hhigh := hex_digit_of_digit (c.toNat / 16) (by omega)
  have hlow := hex_digit_of_digit (c.toNat % 16) (by omega)
  have hzero : hexDigit? '0' = some 0 := rfl
  have hcode : 4096 * 0 + 256 * 0 + 16 * (c.toNat / 16) + c.toNat % 16 = c.toNat := by omega
  rw [four_digits_of_control c.toNat h]
  simp only [List.cons_append, List.nil_append, readPieces?, hzero, hhigh, hlow,
    Option.bind_eq_bind, Option.bind_some, hcode]
  cases readPieces? rest <;> rfl

/-- A character is read back from the letter that stands for it. -/
theorem read_letter {letter : Char} (h : shortEscape? letter = some c) (rest : List Char) :
    readPieces? ('\\' :: letter :: rest) =
      (readPieces? rest).map fun found => (.character c :: found.1, found.2) := by
  have hu : letter ≠ 'u' := by
    rintro rfl
    cases h
  rw [readPieces?]
  · rw [h]
    cases readPieces? rest <;> rfl
  · exact fun _ _ _ _ _ h _ => hu h

/-- A character that needs no escape is read back. -/
theorem read_character (hquote : c ≠ '"') (hslash : c ≠ '\\') (hprinted : ¬c.toNat < 0x20)
    (rest : List Char) : readPieces? (c :: rest) =
      (readPieces? rest).map fun found => (.character c :: found.1, found.2) := by
  rw [readPieces?]
  · rw [if_neg (not_or.2 ⟨hslash, hprinted⟩)]
    cases readPieces? rest <;> rfl
  · exact hquote
  · exact fun _ _ _ _ _ h _ => hslash h
  · exact fun _ _ h _ => hslash h

/-- A character is read back from its escape. -/
theorem read_escape (c : Char) (rest : List Char) :
    readPieces? ((escapeCharacter c).toList ++ rest) =
      (readPieces? rest).map fun found => (pieceOf c :: found.1, found.2) := by
  unfold escapeCharacter
  split_ifs with hquote hslash hline hreturn htab hback hfeed hcontrol
  · subst hquote
    exact read_letter rfl rest
  · subst hslash
    exact read_letter rfl rest
  · subst hline
    exact read_letter rfl rest
  · subst hreturn
    exact read_letter rfl rest
  · subst htab
    exact read_letter rfl rest
  · subst hback
    exact read_letter rfl rest
  · subst hfeed
    exact read_letter rfl rest
  · rw [pieceOf, if_pos ⟨hcontrol, hline, hreturn, htab, hback, hfeed⟩, ← read_control hcontrol,
      String.toList_append]
    rfl
  · rw [pieceOf, if_neg fun h => hcontrol h.1, ← read_character hquote hslash hcontrol]
    simp

/-- A text is read back up to its closing quote. -/
theorem read_escaped (text rest : List Char) :
    readPieces? (escaped text ++ '"' :: rest) = some (text.map pieceOf, rest) := by
  induction text with
  | nil => rfl
  | cons c text ih =>
      unfold escaped at ih ⊢
      rw [List.flatMap_cons, List.append_assoc, read_escape, ih]
      rfl

/-! ## Meaning -/

/-- A piece stands for the character that it was read back from. -/
theorem piece_text_cons (c : Char) (pieces : List Piece) :
    pieceText? (pieceOf c :: pieces) = (pieceText? pieces).map (c :: ·) := by
  unfold pieceOf
  split_ifs with hcontrol
  · have hsmall := hcontrol.1
    conv_lhs => unfold pieceText?
    rw [if_neg (by omega), if_neg (by omega), Char.ofNat_toNat]
  · rfl

/-- The pieces of a text stand for it. -/
theorem piece_text_of_pieces (text : List Char) : pieceText? (text.map pieceOf) = some text := by
  induction text with
  | nil => rfl
  | cons c text ih =>
      rw [List.map_cons, piece_text_cons, ih]
      rfl

end CardBrowser.Json
