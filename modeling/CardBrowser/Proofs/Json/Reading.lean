import Mathlib
import CardBrowser.Proofs.Json.Numeral
import CardBrowser.Proofs.Json.Strings

/-!
# Reading what has been written

`Reads` says that a text is read as a tree wherever it stands. It holds of the texts of all atoms
and of the lines between two brackets, if it holds of what is on the lines: `reads_array` and
`reads_object`. Items and members are read line by line in the same way, which `ReadsLines` says.
-/

namespace CardBrowser.Json

open CardBrowser.Text

variable {text gap rest : List Char} {node : Node} {numeral : Numeral} {fuel : Nat}

/-- A text is read as a tree if fuel for its characters is there and no number could go on behind
it. -/
structure Reads (text : List Char) (node : Node) : Prop where
  begins : ∃ c later, text = c :: later ∧ isGap c = false ∧ c ≠ ']'
  read : ∀ fuel rest, text.length ≤ fuel → endsNumber rest = true →
    readNode? fuel (text ++ rest) = some (node, rest)

/-! ## White space -/

/-- White space in front is skipped. -/
theorem skip_gap_append (hgap : ∀ c ∈ gap, isGap c = true) (rest : List Char) :
    skipGap (gap ++ rest) = skipGap rest :=
  List.dropWhile_append_of_pos hgap

/-- Nothing is skipped before another character. -/
theorem skip_gap_cons {c : Char} (hc : isGap c = false) (rest : List Char) :
    skipGap (c :: rest) = c :: rest :=
  List.dropWhile_cons_of_neg (by simp [hc])

/-- White space in front of a tree is skipped. -/
theorem read_node_append (hgap : ∀ c ∈ gap, isGap c = true) (fuel : Nat) (rest : List Char) :
    readNode? fuel (gap ++ rest) = readNode? fuel rest := by
  cases fuel with
  | zero => rfl
  | succ fuel =>
      unfold readNode?
      rw [skip_gap_append hgap]

/-- A number ends before white space and what ends it. -/
theorem ends_number_append (hgap : ∀ c ∈ gap, isGap c = true) (hrest : endsNumber rest = true) :
    endsNumber (gap ++ rest) = true := by
  cases gap with
  | nil => exact hrest
  | cons c gap =>
      have hc := hgap c List.mem_cons_self
      simp only [isGap, Bool.or_eq_true, beq_iff_eq] at hc
      rcases hc with ((rfl | rfl) | rfl) | rfl <;> rfl

/-! ## Atoms -/

/-- A text is read as a tree if its other characters need no more fuel than there are. -/
theorem reads_of_cons {c : Char} {later : List Char} (hgap : isGap c = false) (hclosing : c ≠ ']')
    (h : ∀ fuel rest, later.length ≤ fuel → endsNumber rest = true →
      readNode? (fuel + 1) (c :: (later ++ rest)) = some (node, rest)) :
    Reads (c :: later) node where
  begins := ⟨c, later, rfl, hgap, hclosing⟩
  read fuel rest hfuel hrest := by
    cases fuel with
    | zero => cases hfuel
    | succ fuel => exact h fuel rest (Nat.le_of_succ_le_succ hfuel) hrest

/-- The text of null is read as it. -/
theorem reads_null : Reads "null".toList .null :=
  reads_of_cons rfl (by decide) fun _ _ _ _ => rfl

/-- The text of a truth value is read as it. -/
theorem reads_bool (value : Bool) :
    Reads (if value then "true" else "false").toList (.bool value) := by
  cases value with
  | true => exact reads_of_cons rfl (by decide) fun _ _ _ _ => rfl
  | false => exact reads_of_cons rfl (by decide) fun _ _ _ _ => rfl

/-- A numeral begins with a sign or a digit. -/
theorem exists_cons_text (h : numeral.WellFormed) :
    ∃ c later, numeral.text = c :: later ∧ (c = '-' ∨ isDigit c = true) := by
  obtain ⟨c, later, hwhole, hc⟩ := h.whole.exists_cons
  unfold Numeral.text
  cases numeral.negative with
  | true => exact ⟨_, _, rfl, Or.inl rfl⟩
  | false =>
      rw [hwhole]
      exact ⟨_, _, rfl, Or.inr hc⟩

/-- The text of a numeral is read as it. -/
theorem reads_numeral (h : numeral.WellFormed) : Reads numeral.text (.number numeral) := by
  have hread : ∀ rest, endsNumber rest = true →
      readNumeral? (numeral.text ++ rest) = some (numeral, rest) := fun _ => read_numeral_text h
  obtain ⟨c, later, htext, hc⟩ := exists_cons_text h
  rw [htext] at hread ⊢
  have hne : ∀ d, d ≠ '-' → isDigit d = false → c ≠ d := by
    rintro d hminus hdigit rfl
    exact hc.elim hminus fun h => ne_of_is_digit h hdigit rfl
  have hgap : isGap c = false := by
    simp only [isGap, Bool.or_eq_false_iff, beq_eq_false_iff_ne]
    exact ⟨⟨⟨hne _ (by decide) rfl, hne _ (by decide) rfl⟩, hne _ (by decide) rfl⟩,
      hne _ (by decide) rfl⟩
  refine reads_of_cons hgap (hne _ (by decide) rfl) fun fuel rest _ hrest => ?_
  unfold readNode?
  rw [skip_gap_cons hgap]
  -- No other tree begins with a sign or a digit.
  split
  all_goals try
    rename_i heq
    exact absurd (List.cons.inj heq).1 (hne _ (by decide) rfl)
  have hnumber := hread rest hrest
  rw [List.cons_append] at hnumber
  rw [hnumber]
  rfl

/-- The text of a string is read as its pieces. -/
theorem reads_string (text : String) :
    Reads (stringText text).toList (.string (piecesOf text)) := by
  rw [to_list_string_text]
  refine reads_of_cons rfl (by decide) fun fuel rest _ _ => ?_
  have hstring : ∀ later, readNode? (fuel + 1) ('"' :: later) =
      (readPieces? later).map fun found => (.string found.1, found.2) := fun _ => rfl
  rw [hstring, List.append_assoc, List.singleton_append, read_escaped]
  rfl

/-! ## Lines between brackets -/

/-- Lines joined by a comma and white space. -/
def commaLines (gap : List Char) (texts : List (List Char)) : List Char :=
  List.intercalate (',' :: gap) texts

/-- What is read behind a line and white space: other lines after a comma, or what closes them. -/
def afterLine {α : Type} (closing : Char) (read : List Char → Option (List α × List Char))
    (line : α) : List Char → Option (List α × List Char)
  | c :: rest =>
    if c = ',' then (read rest).map fun found => (line :: found.1, found.2)
    else if c = closing then some ([line], rest)
    else none
  | [] => none

/-- Nothing else is read behind a line. -/
theorem after_line_eq_none {α : Type} {closing : Char}
    {read : List Char → Option (List α × List Char)} {line : α}
    (hcomma : ∀ later, rest ≠ ',' :: later) (hclosing : ∀ later, rest ≠ closing :: later) :
    afterLine closing read line rest = none := by
  cases rest with
  | nil => rfl
  | cons c later =>
      unfold afterLine
      dsimp only
      rw [if_neg fun h => hcomma later (by rw [h]), if_neg fun h => hclosing later (by rw [h])]

/-- A function reads lines one after the other, up to what closes them. -/
structure ReadsLines {α : Type} (Line : List Char → α → Prop) (closing : Char)
    (read : Nat → List Char → Option (List α × List Char)) : Prop where
  closes : isGap closing = false ∧ closing ≠ ',' ∧ endsNumber [closing] = true
  begins : ∀ {text line}, Line text line →
    ∃ c later, text = c :: later ∧ isGap c = false ∧ c ≠ closing
  skip : ∀ {gap}, (∀ c ∈ gap, isGap c = true) →
    ∀ fuel rest, read fuel (gap ++ rest) = read fuel rest
  step : ∀ {text line}, Line text line →
    ∀ fuel rest, text.length ≤ fuel → endsNumber rest = true →
      read (fuel + 1) (text ++ rest) = afterLine closing (read fuel) line (skipGap rest)

section Lines

variable {α : Type} {Line : List Char → α → Prop} {closing : Char}
  {read : Nat → List Char → Option (List α × List Char)} {last : List Char}
  {texts : List (List Char)} {lines : List α}

/-- Behind a line there are a comma and another line, or what follows the lines. -/
theorem comma_lines_cons (gap text : List Char) (texts : List (List Char)) (rest : List Char) :
    commaLines gap (text :: texts) ++ rest = text ++
      if texts = [] then rest else ',' :: (gap ++ (commaLines gap texts ++ rest)) := by
  unfold commaLines
  cases texts with
  | nil => simp
  | cons next texts => simp

/-- Lines are read up to what closes them. -/
theorem ReadsLines.read_lines (hread : ReadsLines Line closing read)
    (hgap : ∀ c ∈ gap, isGap c = true) (hlast : ∀ c ∈ last, isGap c = true)
    (h : List.Forall₂ Line texts lines) (hne : texts ≠ []) (rest : List Char)
    (hfuel : (commaLines gap texts).length < fuel) :
    read fuel (commaLines gap texts ++ (last ++ closing :: rest)) = some (lines, rest) := by
  obtain ⟨hclosing, hcomma, hends⟩ := hread.closes
  induction h generalizing fuel with
  | nil => exact absurd rfl hne
  | @cons text line texts lines htext htexts ih =>
      obtain ⟨fuel, rfl⟩ := Nat.exists_eq_succ_of_ne_zero (Nat.ne_of_gt (Nat.zero_lt_of_lt hfuel))
      have hlength := congrArg List.length (comma_lines_cons gap text texts [])
      rw [List.append_nil, List.append_nil, List.length_append] at hlength
      rw [comma_lines_cons]
      cases htexts with
      | nil =>
          have hlastends : endsNumber (last ++ closing :: rest) = true :=
            ends_number_append hlast hends
          rw [if_pos rfl, hread.step htext fuel _ (by omega) hlastends, skip_gap_append hlast,
            skip_gap_cons hclosing]
          unfold afterLine
          dsimp only
          rw [if_neg hcomma, if_pos rfl]
      | @cons next later nexts laters hnext hlater =>
          rw [if_neg (List.cons_ne_nil _ _)] at hlength ⊢
          rw [List.length_cons, List.length_append] at hlength
          rw [hread.step htext fuel _ (by omega) rfl, skip_gap_cons rfl]
          unfold afterLine
          dsimp only
          rw [if_pos rfl, hread.skip hgap, ih (List.cons_ne_nil _ _) (by omega)]
          rfl

/-- Lines begin with neither white space nor what closes them. -/
theorem ReadsLines.exists_cons (hread : ReadsLines Line closing read)
    (h : List.Forall₂ Line texts lines) (hne : texts ≠ []) (gap rest : List Char) :
    ∃ c later, commaLines gap texts ++ rest = c :: later ∧ isGap c = false ∧ c ≠ closing := by
  cases h with
  | nil => exact absurd rfl hne
  | cons htext htexts =>
      obtain ⟨c, later, rfl, hc⟩ := hread.begins htext
      exact ⟨c, _, comma_lines_cons gap _ _ rest, hc⟩

end Lines

/-- The items of an array are read line by line. -/
theorem reads_items : ReadsLines Reads ']' readItems? where
  closes := ⟨rfl, by decide, rfl⟩
  begins h := h.begins
  skip hgap fuel rest := by
    cases fuel with
    | zero => rfl
    | succ fuel =>
        unfold readItems?
        rw [read_node_append hgap]
  step {text node} h fuel rest hfuel hrest := by
    unfold readItems?
    rw [h.read fuel rest hfuel hrest]
    simp only [Option.bind_eq_bind, Option.bind_some]
    split
    · rw [‹skipGap rest = _›]
      exact Option.map_eq_bind.symm
    · rw [‹skipGap rest = _›]
      rfl
    · exact (after_line_eq_none ‹_› ‹_›).symm

/-- A text is the name of a member and, behind a colon and a blank, the text of its value. -/
def ReadsMember (text : List Char) (member : List Piece × Node) : Prop :=
  ∃ name value, text = (stringText name).toList ++ ':' :: ' ' :: value ∧
    piecesOf name = member.1 ∧ Reads value member.2

/-- The members of an object are read line by line. -/
theorem reads_members : ReadsLines ReadsMember '\x7d' readMembers? where
  closes := ⟨rfl, by decide, rfl⟩
  begins := by
    rintro text member ⟨name, value, rfl, -, -⟩
    rw [to_list_string_text]
    exact ⟨_, _, rfl, rfl, by decide⟩
  skip hgap fuel rest := by
    cases fuel with
    | zero => rfl
    | succ fuel =>
        unfold readMembers?
        rw [skip_gap_append hgap]
  step := by
    rintro text ⟨pieces, node⟩ ⟨name, value, rfl, rfl, hvalue⟩ fuel rest hfuel hrest
    rw [List.length_append, List.length_cons, List.length_cons] at hfuel
    have hblank : readNode? fuel (' ' :: (value ++ rest)) = some (node, rest) := by
      rw [← List.singleton_append, read_node_append (by simp [isGap])]
      exact hvalue.read fuel rest (by omega) hrest
    unfold readMembers?
    rw [to_list_string_text]
    simp only [List.cons_append, List.append_assoc, List.nil_append, skip_gap_cons (c := '"') rfl,
      read_escaped, Option.bind_eq_bind, Option.bind_some, skip_gap_cons (c := ':') rfl, hblank]
    split
    · rw [‹skipGap rest = _›]
      exact Option.map_eq_bind.symm
    · rw [‹skipGap rest = _›]
      rfl
    · exact (after_line_eq_none ‹_› ‹_›).symm

/-! ## Arrays and objects -/

/-- A line end and blanks are white space. -/
theorem is_gap_new_line (level : Nat) : ∀ c ∈ (Value.newLine level).toList, isGap c = true := by
  have hblanks : ∀ c ∈ List.replicate (2 * level) ' ', isGap c = true := by
    intro c hmem
    rw [List.eq_of_mem_replicate hmem]
    rfl
  unfold Value.newLine
  rw [String.toList_append, String.toList_ofList, String.toList_ofList]
  exact List.forall_mem_append.2 ⟨by simp [isGap], hblanks⟩

/-- Lines between two brackets, as they are written. -/
theorem to_list_block {opening closing : String} (first last : Char)
    (hopening : opening.toList = [first]) (hclosing : closing.toList = [last]) (level : Nat)
    (lines : List String) : (Value.block level opening closing lines).toList = first ::
      if lines = [] then [last]
      else (Value.newLine (level + 1)).toList ++
        (commaLines (Value.newLine (level + 1)).toList (lines.map String.toList) ++
          ((Value.newLine level).toList ++ [last])) := by
  unfold Value.block commaLines
  by_cases hne : lines = []
  · rw [if_pos hne, if_pos (by simpa using hne), String.toList_append, hopening, hclosing]
    rfl
  · rw [if_neg hne, if_neg (by simpa using hne)]
    simp [String.toList_intercalate, hopening, hclosing]

section Block

variable {α : Type} {Line : List Char → α → Prop} {closing : Char}
  {read : Nat → List Char → Option (List α × List Char)} {texts : List (List Char)} {lines : List α}

/-- The lines of a block are read from behind its opening bracket. -/
theorem ReadsLines.read_block (hread : ReadsLines Line closing read) (level : Nat)
    (h : List.Forall₂ Line texts lines) (hne : texts ≠ []) {later : List Char}
    (hlater : later = (Value.newLine (level + 1)).toList ++
      (commaLines (Value.newLine (level + 1)).toList texts ++
        ((Value.newLine level).toList ++ [closing])))
    (rest : List Char) (hfuel : later.length ≤ fuel) :
    (∀ after, skipGap (later ++ rest) ≠ closing :: after) ∧
      read fuel (skipGap (later ++ rest)) = some (lines, rest) := by
  have hgap := is_gap_new_line (level + 1)
  have hlast := is_gap_new_line level
  generalize (Value.newLine (level + 1)).toList = gap at hgap hlater
  generalize (Value.newLine level).toList = last at hlast hlater
  have hskip : skipGap (later ++ rest) = commaLines gap texts ++ (last ++ closing :: rest) := by
    obtain ⟨c, after, hcons, hc, -⟩ := hread.exists_cons h hne gap (last ++ closing :: rest)
    rw [hlater, List.append_assoc, skip_gap_append hgap, List.append_assoc, List.append_assoc,
      List.singleton_append, hcons, skip_gap_cons hc]
  rw [hskip]
  constructor
  · obtain ⟨c, after, hcons, -, hc⟩ := hread.exists_cons h hne gap (last ++ closing :: rest)
    exact fun other heq => hc (List.cons.inj (hcons.symm.trans heq)).1
  · refine hread.read_lines hgap hlast h hne rest ?_
    rw [hlater] at hfuel
    simp only [List.length_append, List.length_singleton] at hfuel
    omega

end Block

/-- Items are read behind a bracket that is not closed at once. -/
theorem read_array {later : List Char} (h : ∀ after, skipGap later ≠ ']' :: after) :
    readNode? (fuel + 1) ('[' :: later) =
      (readItems? fuel (skipGap later)).map fun found => (.array found.1, found.2) := by
  unfold readNode?
  rw [skip_gap_cons rfl]
  simp only

/-- Members are read behind a brace that is not closed at once. -/
theorem read_object {later : List Char} (h : ∀ after, skipGap later ≠ '\x7d' :: after) :
    readNode? (fuel + 1) ('\x7b' :: later) =
      (readMembers? fuel (skipGap later)).map fun found => (.object found.1, found.2) := by
  unfold readNode?
  rw [skip_gap_cons rfl]
  simp only

/-- The lines of items between brackets are read as an array. -/
theorem reads_array (level : Nat) {lines : List String} {nodes : List Node}
    (h : List.Forall₂ Reads (lines.map String.toList) nodes) :
    Reads (Value.block level "[" "]" lines).toList (.array nodes) := by
  rw [to_list_block '[' ']' rfl rfl]
  by_cases hne : lines = []
  · subst hne
    cases h
    exact reads_of_cons rfl (by decide) fun _ _ _ _ => rfl
  · rw [if_neg hne]
    refine reads_of_cons rfl (by decide) fun fuel rest hfuel _ => ?_
    obtain ⟨hskip, hread⟩ := reads_items.read_block level h (by simpa using hne) rfl rest hfuel
    rw [read_array hskip, hread]
    rfl

/-- The lines of members between braces are read as an object. -/
theorem reads_object (level : Nat) {lines : List String} {members : List (List Piece × Node)}
    (h : List.Forall₂ ReadsMember (lines.map String.toList) members) :
    Reads (Value.block level "\x7b" "\x7d" lines).toList (.object members) := by
  rw [to_list_block '\x7b' '\x7d' rfl rfl]
  by_cases hne : lines = []
  · subst hne
    cases h
    exact reads_of_cons rfl (by decide) fun _ _ _ _ => rfl
  · rw [if_neg hne]
    refine reads_of_cons rfl (by decide) fun fuel rest hfuel _ => ?_
    obtain ⟨hskip, hread⟩ := reads_members.read_block level h (by simpa using hne) rfl rest hfuel
    rw [read_object hskip, hread]
    rfl

end CardBrowser.Json
