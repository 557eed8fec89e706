import Mathlib
import CardBrowser.Text.Word

/-!
# Qualifiers within a text

`qualifiers` looks at every place of a text on its own, while `scanQualifiers` passes over what it
has found. No name is hidden in that way, because none begins within another one or at its dot:
`scan_qualifiers_eq`. So a text mentions the names that stand somewhere directly before a dot and
not after a character that continues a word (`mentions_alias_iff`), and it mentions what its parts
do, unless such a part stands directly after a word: `mentions_alias_append_left` and
`mentions_alias_append_right`.
-/

namespace CardBrowser.Text

variable {name text : List Char} {afterWord : Bool}

/-! ## Names at their places -/

/-- The names that stand at the beginning of a word and directly before a dot, in the order of the
text. `afterWord` tells whether the character before the text continues a word. -/
def qualifiers (afterWord : Bool) : List Char → List (List Char)
  | [] => []
  | c :: rest =>
    let later := qualifiers (isWord c) rest
    if !afterWord && isNameStart c && (rest.dropWhile isNamePart).head? == some '.' then
      (c :: rest.takeWhile isNamePart) :: later
    else
      later

/-- A name is a part of a word. -/
theorem is_word_of_is_name_part {c : Char} (h : isNamePart c = true) : isWord c = true := by
  have hascii : c.toNat < 128 := by
    simp only [isNamePart, isNameStart, isDigit, Bool.or_eq_true, Bool.and_eq_true,
      decide_eq_true_eq, beq_iff_eq] at h
    rcases h with ((⟨-, h⟩ | ⟨-, h⟩) | rfl) | ⟨-, h⟩
    · exact lt_of_le_of_lt h (by decide : 'Z'.toNat < 128)
    · exact lt_of_le_of_lt h (by decide : 'z'.toNat < 128)
    · decide
    · exact lt_of_le_of_lt h (by decide : '9'.toNat < 128)
  unfold isWord
  rw [if_pos hascii]
  exact h

/-- The characters of a name up to a dot. -/
theorem take_name_part {rest after : List Char} (h : rest.all isNamePart = true) :
    (rest ++ '.' :: after).takeWhile isNamePart = rest ∧
      (rest ++ '.' :: after).dropWhile isNamePart = '.' :: after := by
  have hdot : isNamePart '.' = false := by decide
  have hparts : ∀ c ∈ rest, isNamePart c = true := List.all_eq_true.1 h
  constructor
  · rw [List.takeWhile_append_of_pos hparts, List.takeWhile_cons_of_neg (by simp [hdot]),
      List.append_nil]
  · rw [List.dropWhile_append_of_pos hparts, List.dropWhile_cons_of_neg (by simp [hdot])]

/-- A name before a dot is found at its own place only, and as a whole. -/
theorem qualifier_eq_some_iff :
    qualifier? afterWord text = some name ↔
      afterWord = false ∧ isName name = true ∧ ∃ after, text = name ++ '.' :: after := by
  constructor
  · intro h
    unfold qualifier? at h
    split at h
    · cases h
    · rename_i c rest
      split at h
      · rename_i hfirst
        cases h
        simp only [Bool.and_eq_true, Bool.not_eq_true', beq_iff_eq] at hfirst
        obtain ⟨⟨hword, hstart⟩, hdot⟩ := hfirst
        obtain ⟨after, hafter⟩ := List.head?_eq_some_iff.1 hdot
        refine ⟨hword, by simp [isName, hstart], after, ?_⟩
        rw [← hafter]
        simp
      · cases h
  · intro h
    obtain ⟨rfl, hname, after, rfl⟩ := h
    cases name with
    | nil => cases hname
    | cons c rest =>
        obtain ⟨hstart, hrest⟩ := Bool.and_eq_true_iff.1 hname
        obtain ⟨htake, hdrop⟩ := @take_name_part rest after hrest
        simp [qualifier?, hstart, htake, hdrop]

/-- The names of a text are the one at its beginning, if there is one, and the later ones. -/
theorem qualifiers_cons (c : Char) (rest : List Char) :
    qualifiers afterWord (c :: rest) =
      (qualifier? afterWord (c :: rest)).toList ++ qualifiers (isWord c) rest := by
  rw [qualifiers, qualifier?]
  split <;> rfl

/-- While a name and its dot are passed over no other one begins, as the characters before continue
a word. -/
theorem qualifiers_after_name {rest after : List Char} (hrest : rest.all isNamePart = true) :
    qualifiers true (rest ++ '.' :: after) = qualifiers false after := by
  induction rest with
  | nil => simp [qualifiers, show isWord '.' = false by decide]
  | cons c rest ih =>
      obtain ⟨hpart, hrest⟩ := Bool.and_eq_true_iff.1 hrest
      simp [qualifiers, is_word_of_is_name_part hpart, ih hrest]

/-- A scan goes on behind the dot of a name. -/
theorem scan_qualifiers_after_name {rest after : List Char} (hrest : rest.all isNamePart = true) :
    scanQualifiers (rest.length + 1) true (rest ++ '.' :: after) =
      scanQualifiers 0 false after := by
  induction rest with
  | nil => simp [scanQualifiers, show isWord '.' = false by decide]
  | cons c rest ih =>
      obtain ⟨hpart, hrest⟩ := Bool.and_eq_true_iff.1 hrest
      simp [scanQualifiers, is_word_of_is_name_part hpart, ih hrest]

/-- Nothing is hidden by a name that is found before it and passed over. -/
theorem scan_qualifiers_eq (afterWord : Bool) (text : List Char) :
    scanQualifiers 0 afterWord text = qualifiers afterWord text := by
  -- A scan goes on behind the dot of what it has found, so the induction is on the length.
  induction hlength : text.length using Nat.strong_induction_on generalizing text afterWord with
  | _ length ih =>
      cases text with
      | nil => rfl
      | cons c rest =>
          rw [qualifiers_cons]
          unfold scanQualifiers
          cases hfound : qualifier? afterWord (c :: rest) with
          | none => exact ih rest.length (by simp [← hlength]) _ _ rfl
          | some name =>
              obtain ⟨-, hname, after, heq⟩ := qualifier_eq_some_iff.1 hfound
              cases name with
              | nil => cases hname
              | cons d parts =>
                  rw [List.cons_append] at heq
                  obtain ⟨rfl, rfl⟩ := List.cons.inj heq
                  obtain ⟨hstart, hparts⟩ := Bool.and_eq_true_iff.1 hname
                  have hword : isWord c = true :=
                    is_word_of_is_name_part (Bool.or_eq_true_iff.2 (Or.inl hstart))
                  have hlater : scanQualifiers 0 false after = qualifiers false after :=
                    ih after.length (by simp [← hlength]; omega) _ _ rfl
                  show (c :: parts) :: scanQualifiers (parts.length + 1) (isWord c) _ =
                    (c :: parts) :: qualifiers (isWord c) _
                  rw [hword, scan_qualifiers_after_name hparts, qualifiers_after_name hparts,
                    hlater]

/-- The names that a text mentions may be looked for at every place on its own. -/
theorem mentions_alias_eq (sql shortName : String) :
    mentionsAlias sql shortName = (qualifiers false sql.toList).contains shortName.toList := by
  unfold mentionsAlias
  rw [scan_qualifiers_eq]

/-- Whether the last character of a text continues a word. `afterWord` tells it for the empty
text. -/
def endsInWord (afterWord : Bool) : List Char → Bool
  | [] => afterWord
  | c :: rest => endsInWord (isWord c) rest

/-- The text that stands last decides, unless it is empty. -/
theorem ends_in_word_append (before after : List Char) :
    endsInWord afterWord (before ++ after) = endsInWord (endsInWord afterWord before) after := by
  induction before generalizing afterWord with
  | nil => rfl
  | cons c before ih => exact ih

/-- No word goes on after a text if it is empty or its last character is not a part of a word. -/
theorem ends_in_word_eq_false_iff {text : List Char} :
    endsInWord false text = false ↔ ∀ c ∈ text.getLast?, isWord c = false := by
  rcases List.eq_nil_or_concat text with rfl | ⟨first, c, rfl⟩
  · simp [endsInWord]
  · rw [List.concat_eq_append, ends_in_word_append, List.getLast?_concat]
    simp [endsInWord]

/-- The names that are listed stand before a dot and at the beginning of a word. -/
theorem mem_qualifiers_iff :
    name ∈ qualifiers afterWord text ↔ isName name = true ∧ ∃ before after,
      text = before ++ name ++ '.' :: after ∧ endsInWord afterWord before = false := by
  induction text generalizing afterWord with
  | nil =>
      refine ⟨fun h => absurd h List.not_mem_nil, ?_⟩
      intro h
      obtain ⟨-, before, after, heq, -⟩ := h
      simp at heq
  | cons c rest ih =>
      rw [qualifiers_cons, List.mem_append, Option.mem_toList, qualifier_eq_some_iff, ih]
      constructor
      · intro h
        rcases h with ⟨hword, hname, after, heq⟩ | ⟨hname, before, after, rfl, hword⟩
        · exact ⟨hname, [], after, heq, hword⟩
        · exact ⟨hname, c :: before, after, rfl, hword⟩
      · intro h
        obtain ⟨hname, before, after, heq, hword⟩ := h
        cases before with
        | nil => exact Or.inl ⟨hword, hname, after, heq⟩
        | cons d before =>
            obtain ⟨rfl, rfl⟩ := List.cons.inj heq
            exact Or.inr ⟨hname, before, after, rfl, hword⟩

/-- A text mentions a short name exactly if this is a name, and if it stands somewhere in the text
directly before a dot and not after a character that continues a word. The names before and behind
that place do not matter. -/
theorem mentions_alias_iff (sql shortName : String) :
    mentionsAlias sql shortName = true ↔ isName shortName.toList = true ∧
      ∃ before after : String, sql = before ++ shortName ++ "." ++ after ∧
        ∀ c ∈ before.toList.getLast?, isWord c = false := by
  rw [mentions_alias_eq, List.contains_iff_mem, mem_qualifiers_iff]
  refine and_congr_right fun _ => ⟨fun h => ?_, fun h => ?_⟩
  · obtain ⟨before, after, hsql, hword⟩ := h
    refine ⟨String.ofList before, String.ofList after, String.toList_inj.1 ?_, ?_⟩
    · simp [hsql]
    · simpa using ends_in_word_eq_false_iff.1 hword
  · obtain ⟨before, after, rfl, hword⟩ := h
    exact ⟨before.toList, after.toList, by simp, ends_in_word_eq_false_iff.2 hword⟩

example : mentionsAlias "c.n.id" "n" = true := by decide

/-- A text mentions a short name if it is made of that name, a dot and more. -/
theorem mentions_alias_before_dot {shortName : String} (after : String)
    (hname : isName shortName.toList = true) :
    mentionsAlias (shortName ++ "." ++ after) shortName = true := by
  simp only [mentions_alias_eq]
  rw [List.contains_iff_mem, mem_qualifiers_iff]
  exact ⟨hname, [], after.toList, by simp, rfl⟩

variable {inner shortName : String}

/-- A text in front of another one mentions what it does on its own. -/
theorem mentions_alias_append_left (after : String) (h : mentionsAlias inner shortName = true) :
    mentionsAlias (inner ++ after) shortName = true := by
  rw [mentions_alias_eq] at h ⊢
  rw [List.contains_iff_mem, mem_qualifiers_iff] at h ⊢
  obtain ⟨hname, left, right, hinner, hleft⟩ := h
  exact ⟨hname, left, right ++ after.toList, by simp [hinner], hleft⟩

/-- A text that does not stand directly after a word mentions what it does on its own. -/
theorem mentions_alias_append_right {before : String}
    (hword : endsInWord false before.toList = false) (h : mentionsAlias inner shortName = true) :
    mentionsAlias (before ++ inner) shortName = true := by
  rw [mentions_alias_eq] at h ⊢
  rw [List.contains_iff_mem, mem_qualifiers_iff] at h ⊢
  obtain ⟨hname, left, right, hinner, hleft⟩ := h
  refine ⟨hname, before.toList ++ left, right, by simp [hinner], ?_⟩
  rw [ends_in_word_append, hword, hleft]

/-- No word goes on after a text that ends in a character that is not part of a word. -/
theorem ends_in_word_append_eq_false {before after : String}
    (h : ∀ afterWord, endsInWord afterWord after.toList = false) :
    endsInWord false (before ++ after).toList = false := by
  rw [String.toList_append, ends_in_word_append]
  exact h _

/-! ## Parts of a text -/

/-- A character that is neither a part of a name nor a dot separates the names before it from those
after it. -/
theorem qualifiers_append {c : Char} (before after : List Char) (hpart : isNamePart c = false)
    (hdot : c ≠ '.') :
    qualifiers afterWord (before ++ c :: after) =
      qualifiers afterWord before ++ qualifiers (isWord c) after := by
  induction before generalizing afterWord with
  | nil =>
      have hstart : isNameStart c = false := (Bool.or_eq_false_iff.1 hpart).1
      simp [qualifiers, hstart]
  | cons d before ih =>
      -- A name in the first part ends there, and so does the search for its dot.
      have htake : (before ++ c :: after).takeWhile isNamePart = before.takeWhile isNamePart := by
        rw [List.takeWhile_append]
        split
        · rename_i hall
          rw [List.takeWhile_cons_of_neg (by simp [hpart]), List.append_nil,
            (List.takeWhile_prefix isNamePart).eq_of_length hall]
        · rfl
      have hdrop : (((before ++ c :: after).dropWhile isNamePart).head? == some '.') =
          ((before.dropWhile isNamePart).head? == some '.') := by
        rw [List.dropWhile_append]
        split
        · rename_i hempty
          rw [List.dropWhile_cons_of_neg (by simp [hpart]), List.isEmpty_iff.1 hempty]
          simpa using hdot
        · rename_i hempty
          rw [List.head?_append_of_ne_nil _ (by simpa using hempty)]
      simp only [List.cons_append, qualifiers, ih, htake, hdrop]
      split <;> rfl

/-- A text without dots has no qualifiers. -/
theorem qualifiers_eq_nil (h : '.' ∉ text) : qualifiers afterWord text = [] := by
  rw [List.eq_nil_iff_forall_not_mem]
  intro name hmem
  obtain ⟨-, before, after, rfl, -⟩ := mem_qualifiers_iff.1 hmem
  exact h (by simp)

/-- What has no dot and does not stand directly after a name mentions nothing. -/
theorem mentions_alias_append_of_no_dot {before after : String}
    (hlast : (before.toList.getLast?.all fun c => isNamePart c || c == '.') = false)
    (h : '.' ∉ after.toList) :
    mentionsAlias (before ++ after) shortName = mentionsAlias before shortName := by
  rcases List.eq_nil_or_concat before.toList with hempty | ⟨first, c, hbefore⟩
  · rw [hempty] at hlast
    cases hlast
  · rw [hbefore, List.concat_eq_append, List.getLast?_concat, Option.all_some,
      Bool.or_eq_false_iff, beq_eq_false_iff_ne] at hlast
    have hrest : ∀ rest, '.' ∉ rest →
        qualifiers false (first ++ c :: rest) = qualifiers false first := by
      intro rest hrest
      rw [qualifiers_append _ _ hlast.1 hlast.2, qualifiers_eq_nil hrest, List.append_nil]
    simp only [mentions_alias_eq]
    rw [String.toList_append, hbefore, List.concat_eq_append, List.append_assoc,
      List.singleton_append, hrest _ h, hrest [] List.not_mem_nil]

/-- A text in parentheses mentions what it does on its own. -/
theorem mentions_alias_paren :
    mentionsAlias ("(" ++ inner ++ ")") shortName = mentionsAlias inner shortName := by
  have hbefore : "(".toList = [] ++ ['('] := by decide
  have hafter : ")".toList = [')'] := by decide
  simp only [mentions_alias_eq]
  rw [String.toList_append, String.toList_append, hbefore, hafter, List.append_assoc,
    List.append_assoc, List.singleton_append, qualifiers_append _ _ (by decide) (by decide),
    qualifiers_append _ _ (by decide) (by decide)]
  simp [qualifiers, show isWord '(' = false by decide]

/-- A text in parentheses after a word mentions what it does on its own. -/
theorem mentions_alias_not_paren :
    mentionsAlias ("NOT (" ++ inner ++ ")") shortName = mentionsAlias inner shortName := by
  have hbefore : "NOT (".toList = "NOT ".toList ++ ['('] := by decide
  have hafter : ")".toList = [')'] := by decide
  have hnot : qualifiers false "NOT ".toList = [] := qualifiers_eq_nil (by decide)
  simp only [mentions_alias_eq]
  rw [String.toList_append, String.toList_append, hbefore, hafter, List.append_assoc,
    List.append_assoc, List.singleton_append, qualifiers_append _ _ (by decide) (by decide),
    qualifiers_append _ _ (by decide) (by decide), hnot]
  simp [qualifiers, show isWord '(' = false by decide]

/-- Texts with a word between them mention what one of them does. -/
theorem mentions_alias_between {word : String} (hword : '.' ∉ word.toList) (left right : String) :
    mentionsAlias (left ++ " " ++ word ++ " " ++ right) shortName =
      (mentionsAlias left shortName || mentionsAlias right shortName) := by
  have hspace : " ".toList = [' '] := by decide
  simp only [mentions_alias_eq]
  simp only [String.toList_append, hspace, List.append_assoc, List.cons_append, List.nil_append]
  rw [qualifiers_append _ _ (by decide) (by decide), qualifiers_append _ _ (by decide) (by decide),
    qualifiers_eq_nil hword, List.nil_append, show isWord ' ' = false by decide,
    List.contains_append]

/-- Conditions that are joined mention what one of them does. -/
theorem mentions_alias_and (left right : String) :
    mentionsAlias (left ++ " AND " ++ right) shortName =
      (mentionsAlias left shortName || mentionsAlias right shortName) := by
  have hand : left ++ " AND " ++ right = left ++ " " ++ "AND" ++ " " ++ right := by
    rw [show " AND " = " " ++ "AND" ++ " " by decide]
    simp only [String.append_assoc]
  rw [hand, mentions_alias_between (by decide)]

/-- Texts that are joined by a word, any number of them, mention what one of them does. -/
theorem mentions_alias_intercalate {texts : List String} (h : texts ≠ []) :
    mentionsAlias (" AND ".intercalate texts) shortName = true ↔
      ∃ text ∈ texts, mentionsAlias text shortName = true := by
  induction texts with
  | nil => exact absurd rfl h
  | cons text texts ih =>
      cases texts with
      | nil => rw [String.intercalate_singleton, List.exists_mem_cons_iff]; simp
      | cons other texts =>
          rw [String.intercalate_cons_cons, mentions_alias_and, Bool.or_eq_true,
            ih (List.cons_ne_nil _ _), List.exists_mem_cons_iff (a := text)]

end CardBrowser.Text
