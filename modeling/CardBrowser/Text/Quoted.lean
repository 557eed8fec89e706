import CardBrowser.Text.HiddenRanges
import CardBrowser.Text.Word

/-!
# Quoted text

Text shown for inspection stands between double quotes; quotes, backslashes and every character
without a glyph of its own are spelled out.
-/

namespace CardBrowser.Text

/-- A number in hexadecimal, in lower case and without leading zeros. -/
def hexadecimal (n : Nat) : String :=
  String.ofList (Nat.toDigits 16 n)

/-- A character that is spelled out by its code point: one without a glyph, or a mark that would
attach itself to the character before it. -/
def isHidden (c : Char) : Bool :=
  let n := c.toNat
  if n < 128 then n < 0x20 || n == 0x7F else inRanges hiddenRanges n

/-- A character as it stands between the quotes. -/
def quotedCharacter (c : Char) : String :=
  if c = '\x00' then "\\0"
  else if c = '\t' then "\\t"
  else if c = '\r' then "\\r"
  else if c = '\n' then "\\n"
  else if c = '"' then "\\\""
  else if c = '\\' then "\\\\"
  else if isHidden c then "\\u\x7b" ++ hexadecimal c.toNat ++ "\x7d"
  else c.toString

/-- The text between double quotes. -/
def quoted (text : String) : String :=
  "\"" ++ String.join (text.toList.map quotedCharacter) ++ "\""

/-- The quoted texts of a list between brackets. -/
def quotedList (texts : List String) : String :=
  "[" ++ ", ".intercalate (texts.map quoted) ++ "]"

end CardBrowser.Text
