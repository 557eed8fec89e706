import CardBrowser.Text.CaseRanges
import CardBrowser.Text.Word

/-!
# Lower case

Labels are put in order by their lower case in all scripts. One letter depends on its neighbours:
a capital sigma becomes a final sigma at the end of a word.
-/

namespace CardBrowser.Text

/-- The property Cased: letters that have a case. -/
def isCased (c : Char) : Bool :=
  if c.toNat < 128 then ('A' ≤ c && c ≤ 'Z') || ('a' ≤ c && c ≤ 'z')
  else inRanges casedRanges c.toNat

/-- The property Case_Ignorable: marks and signs that do not separate letters. -/
def isCaseIgnorable (c : Char) : Bool :=
  if c.toNat < 128 then "'.:^\x60".toList.contains c else inRanges caseIgnorableRanges c.toNat

/-- Whether the first character that is not case-ignorable is cased. -/
def meetsCased (characters : List Char) : Bool :=
  (characters.dropWhile isCaseIgnorable).head?.any isCased

/-- The lower case of a character on its own. -/
def lowerCharacter (c : Char) : List Char :=
  if c.toNat < 128 then [foldCase c]
  else if c = 'İ' then ['i', '\u0307']
  else
    let n := c.toNat
    match lowercaseRuns.find? fun run =>
        run.first ≤ n && n ≤ run.last && (n - run.first) % run.stride == 0 with
    | some run => [Char.ofNat (n + run.offset).toNat]
    | none => [c]

/-- The lower case of the characters that follow `before`, which is given backwards. -/
def lowerAfter (before : List Char) : List Char → List Char
  | [] => []
  | c :: rest =>
    let lower :=
      if c = 'Σ' then [if meetsCased before && !meetsCased rest then 'ς' else 'σ']
      else lowerCharacter c
    lower ++ lowerAfter (c :: before) rest

/-- The text in lower case. -/
def lowercase (text : String) : String :=
  String.ofList (lowerAfter [] text.toList)

end CardBrowser.Text
