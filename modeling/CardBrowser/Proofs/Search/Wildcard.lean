import Mathlib
import CardBrowser.Proofs.Sql.Pattern
import CardBrowser.Search.Condition

/-!
# What a search value occurs in

`Contains` says what it means that a text contains a search value, in which a star stands for any
run of characters. The pattern that is made of the value escapes whatever `LIKE` would take for
something else, so the pattern matches the texts that contain the value: `like_escaped_iff` and
`occurs_iff_contains`. The two differ only by what `LIKE` cannot see: characters after a NUL, and the
difference between the replacement character and two code points that are no characters.
-/

namespace CardBrowser.Search

open CardBrowser.Sql

/-- A value fits a text: a star stands for any run of characters and every other character for
itself, the case of the letters A to Z aside. -/
inductive Fits : List Char → List Char → Prop
  | nil : Fits [] []
  | star (run : List Char) {value text : List Char} (h : Fits value text) :
      Fits ('*' :: value) (run ++ text)
  | character {c d : Char} {value text : List Char} (hstar : c ≠ '*')
      (hfold : Text.foldCase c = Text.foldCase d) (h : Fits value text) :
      Fits (c :: value) (d :: text)

/-- Some part of a text fits a value. -/
def Contains (value text : List Char) : Prop :=
  ∃ before part after, text = before ++ part ++ after ∧ Fits value part

/-- The characters that patterns see of a text. -/
def visible (text : List Char) : List Char :=
  visibleCharacters (String.ofList text)

/-- Some part of what patterns see of a text fits what they see of a value. A value with a NUL fits
the end of a text only. -/
def Occurs (value text : List Char) : Prop :=
  ∃ before part after, visible text = before ++ part ++ after ∧ Fits (visible value) part ∧
    ('\x00' ∈ value → after = [])

/-- A text in which patterns see every character as it is. -/
def IsPlain (text : List Char) : Prop :=
  ∀ c ∈ text, c ≠ '\x00' ∧ c ≠ '\uFFFE' ∧ c ≠ '\uFFFF'

variable {value text rest : List Char} {items : List PatternItem}

/-! ## Patterns -/

/-- The items of a search value. -/
def valueItems (value : List Char) : List PatternItem :=
  value.map fun c => if c = '*' then .anyRun else .exactly c

/-- The pattern of a search value has the items of the value. -/
theorem like_items_escape (value rest : List Char) :
    likeItems (escapePattern value ++ rest) = valueItems value ++ likeItems rest := by
  induction value with
  | nil => rfl
  | cons c value ih =>
      unfold escapePattern
      split
      · rename_i hspecial
        have hstar : c ≠ '*' := by
          rintro rfl
          revert hspecial
          decide
        show likeItems ('\\' :: c :: (escapePattern value ++ rest)) = _
        rw [likeItems, ih]
        simp [valueItems, hstar]
      · rename_i hplain
        push Not at hplain
        split
        · rename_i hstar
          subst hstar
          exact congrArg (PatternItem.anyRun :: ·) ih
        · rename_i hstar
          show likeItems (c :: (escapePattern value ++ rest)) = _
          rw [likeItems]
          · rw [ih]
            simp [valueItems, hstar]
          all_goals simp_all

/-- Only the empty text fits the empty value. -/
theorem fits_nil_iff : Fits [] text ↔ text = [] := by
  constructor
  · intro h
    cases h
    rfl
  · rintro rfl
    exact .nil

/-- A value with a star at its beginning fits a text of which some end part fits the rest of it. -/
theorem fits_star_iff :
    Fits ('*' :: value) text ↔ ∃ run rest, text = run ++ rest ∧ Fits value rest := by
  constructor
  · intro h
    cases h with
    | star run h => exact ⟨run, _, rfl, h⟩
    | character hstar => exact absurd rfl hstar
  · intro h
    obtain ⟨run, rest, rfl, h⟩ := h
    exact .star run h

/-- A value with any other character at its beginning fits a text that begins with the character. -/
theorem fits_character_iff {c : Char} (hstar : c ≠ '*') :
    Fits (c :: value) text ↔
      ∃ d rest, text = d :: rest ∧ Text.foldCase c = Text.foldCase d ∧ Fits value rest := by
  constructor
  · intro h
    cases h with
    | star => exact absurd rfl hstar
    | character _ hfold h => exact ⟨_, _, rfl, hfold, h⟩
  · intro h
    obtain ⟨d, rest, rfl, hfold, h⟩ := h
    exact .character hstar hfold h

/-- The items of a value, followed by others, ask for a part that fits the value and then for what
the others ask for. -/
theorem asks_value_items :
    Asks likeFolded (valueItems value ++ items) text ↔
      ∃ part after, text = part ++ after ∧ Fits value part ∧ Asks likeFolded items after := by
  induction value generalizing text with
  | nil =>
      constructor
      · exact fun h => ⟨[], text, rfl, .nil, h⟩
      · intro h
        obtain ⟨part, after, rfl, hfits, h⟩ := h
        obtain rfl := fits_nil_iff.1 hfits
        exact h
  | cons c value ih =>
      by_cases hstar : c = '*'
      · subst hstar
        show (∃ run rest, text = run ++ rest ∧ Asks likeFolded (valueItems value ++ items) rest) ↔ _
        constructor
        · intro h
          obtain ⟨run, rest, rfl, h⟩ := h
          obtain ⟨part, after, rfl, hfits, h⟩ := ih.1 h
          exact ⟨run ++ part, after, (List.append_assoc ..).symm, .star run hfits, h⟩
        · intro h
          obtain ⟨part, after, rfl, hfits, h⟩ := h
          obtain ⟨run, rest, rfl, hrest⟩ := fits_star_iff.1 hfits
          exact ⟨run, rest ++ after, List.append_assoc .., ih.2 ⟨rest, after, rfl, hrest, h⟩⟩
      · have hitems : valueItems (c :: value) = .exactly c :: valueItems value := by
          simp [valueItems, hstar]
        rw [hitems]
        show (∃ d rest, text = d :: rest ∧ likeFolded c d = true ∧
          Asks likeFolded (valueItems value ++ items) rest) ↔ _
        constructor
        · intro h
          obtain ⟨d, rest, rfl, hlike, h⟩ := h
          obtain ⟨part, after, rfl, hfits, h⟩ := ih.1 h
          exact ⟨d :: part, after, rfl, .character hstar (eq_of_beq hlike) hfits, h⟩
        · intro h
          obtain ⟨part, after, rfl, hfits, h⟩ := h
          obtain ⟨d, rest, rfl, hfold, hrest⟩ := (fits_character_iff hstar).1 hfits
          exact ⟨d, rest ++ after, rfl, beq_iff_eq.2 hfold, ih.2 ⟨rest, after, rfl, hrest, h⟩⟩

/-- A value fits a text if the items of the value match it. -/
theorem fits_iff_matches : Fits value text ↔ matchesText likeFolded (valueItems value) text = true := by
  have hitems := @asks_value_items value text []
  rw [List.append_nil] at hitems
  rw [matches_text_iff, hitems]
  constructor
  · exact fun h => ⟨text, [], (List.append_nil text).symm, h, rfl⟩
  · rintro ⟨part, _, rfl, h, rfl⟩
    rwa [List.append_nil]

instance (value text : List Char) : Decidable (Fits value text) :=
  decidable_of_iff _ fits_iff_matches.symm

/-! ## What patterns see -/

/-- A character as patterns see it. -/
def seen (c : Char) : Char :=
  if c = '\uFFFE' ∨ c = '\uFFFF' then '\uFFFD' else c

/-- Patterns see the characters before a NUL, each by itself. -/
theorem visible_eq (text : List Char) : visible text = (beforeNul text).map seen := by
  unfold visible visibleCharacters
  rw [String.toList_ofList]
  rfl

/-- The characters that are escaped, the star and the NUL are seen as they are, and nothing else is
seen as one of them. -/
theorem seen_eq_iff {c d : Char} (hc : d ≠ '\uFFFD') (hd : d ≠ '\uFFFE' ∧ d ≠ '\uFFFF') :
    seen c = d ↔ c = d := by
  unfold seen
  split
  · rename_i hother
    constructor
    · exact fun h => absurd h.symm hc
    · rintro rfl
      exact absurd hother (by simp [hd.1, hd.2])
  · exact Iff.rfl

/-- What patterns see of the pattern of a value is the pattern of what they see of the value. -/
theorem map_seen_escape (value : List Char) :
    (escapePattern value).map seen = escapePattern (value.map seen) := by
  induction value with
  | nil => rfl
  | cons c value ih =>
      have hspecial : (seen c = '\\' ∨ seen c = '%' ∨ seen c = '_') ↔
          (c = '\\' ∨ c = '%' ∨ c = '_') := by
        rw [seen_eq_iff (by decide) (by decide), seen_eq_iff (by decide) (by decide),
          seen_eq_iff (by decide) (by decide)]
      have hstar : seen c = '*' ↔ c = '*' := seen_eq_iff (by decide) (by decide)
      rw [List.map_cons, escapePattern, escapePattern]
      simp only [hspecial, hstar]
      split
      · rw [List.map_cons, List.map_cons, ih]
        rfl
      · split
        · rw [List.map_cons, ih]
          rfl
        · rw [List.map_cons, ih]

/-- The pattern of a value has a NUL where the value has one, and there it ends. -/
theorem before_nul_escape (value rest : List Char) :
    beforeNul (escapePattern value ++ rest) =
      escapePattern (beforeNul value) ++ if '\x00' ∈ value then [] else beforeNul rest := by
  induction value with
  | nil => rfl
  | cons c value ih =>
      by_cases hnul : c = '\x00'
      · subst hnul
        rw [if_pos List.mem_cons_self]
        rfl
      · have hmem : '\x00' ∈ c :: value ↔ '\x00' ∈ value := by
          simp [Ne.symm hnul]
        have hkeep : ∀ text, beforeNul (c :: text) = c :: beforeNul text := fun text =>
          List.takeWhile_cons_of_pos (by simpa using hnul)
        simp only [hmem, hkeep]
        rw [escapePattern, escapePattern]
        split
        · show beforeNul ('\\' :: c :: (escapePattern value ++ rest)) = _
          have hescape : ∀ text, beforeNul ('\\' :: text) = '\\' :: beforeNul text :=
            fun text => List.takeWhile_cons_of_pos (by decide)
          rw [hescape, hkeep, ih]
          rfl
        · split
          · show beforeNul ('%' :: (escapePattern value ++ rest)) = _
            have hrun : ∀ text, beforeNul ('%' :: text) = '%' :: beforeNul text :=
              fun text => List.takeWhile_cons_of_pos (by decide)
            rw [hrun, ih]
            rfl
          · show beforeNul (c :: (escapePattern value ++ rest)) = _
            rw [hkeep, ih]
            rfl

/-! ## Occurrence -/

/-- The pattern of a value between two runs matches the texts in which the value occurs. -/
theorem like_escaped_iff (value : List Char) (text : String) :
    like text (String.ofList ('%' :: escapePattern value ++ ['%'])) = true ↔
      Occurs value text.toList := by
  have hvisible : visibleCharacters text = visible text.toList := by
    unfold visible
    rw [String.ofList_toList]
  have hpattern : visible ('%' :: escapePattern value ++ ['%']) =
      '%' :: (escapePattern (visible value) ++ if '\x00' ∈ value then [] else ['%']) := by
    have hrun : beforeNul ('%' :: escapePattern value ++ ['%']) =
        '%' :: beforeNul (escapePattern value ++ ['%']) := List.takeWhile_cons_of_pos (by decide)
    rw [visible_eq, visible_eq, hrun, before_nul_escape, List.map_cons, List.map_append,
      map_seen_escape]
    split <;> rfl
  have hitems : likeItems (visible ('%' :: escapePattern value ++ ['%'])) =
      .anyRun :: (valueItems (visible value) ++ if '\x00' ∈ value then [] else [.anyRun]) := by
    rw [hpattern, likeItems, like_items_escape]
    split <;> rfl
  unfold like
  rw [hvisible]
  show matchesText likeFolded (likeItems (visible _)) _ = true ↔ _
  rw [hitems, matches_text_iff]
  show (∃ run rest, visible text.toList = run ++ rest ∧ Asks likeFolded _ rest) ↔ _
  simp only [asks_value_items]
  constructor
  · intro h
    obtain ⟨before, rest, htext, part, after, rfl, hfits, hasks⟩ := h
    refine ⟨before, part, after, by rw [htext, List.append_assoc], hfits, fun hnul => ?_⟩
    rw [if_pos hnul] at hasks
    exact hasks
  · intro h
    obtain ⟨before, part, after, htext, hfits, hend⟩ := h
    refine ⟨before, part ++ after, by rw [htext, List.append_assoc], part, after, rfl, hfits, ?_⟩
    split
    · rename_i hnul
      exact hend hnul
    · exact ⟨after, [], (List.append_nil after).symm, rfl⟩

/-- Of a text without a NUL patterns see all characters. -/
theorem visible_of_no_nul (h : '\x00' ∉ text) : visible text = text.map seen := by
  have hnul : beforeNul text = text := List.takeWhile_eq_self_iff.2 fun c hmem => by
    have hc : c ≠ '\x00' := fun heq => h (heq ▸ hmem)
    simpa using hc
  rw [visible_eq, hnul]

/-- Where neither has a NUL, a value occurs in a text exactly when what patterns see of the text
contains what they see of the value. -/
theorem occurs_iff_of_no_nul (hvalue : '\x00' ∉ value) (htext : '\x00' ∉ text) :
    Occurs value text ↔ Contains (value.map seen) (text.map seen) := by
  unfold Occurs Contains
  rw [visible_of_no_nul hvalue, visible_of_no_nul htext]
  simp only [hvalue, false_implies, and_true]

/-- A plain text has no NUL. -/
theorem IsPlain.no_nul (h : IsPlain text) : '\x00' ∉ text := fun hmem => (h _ hmem).1 rfl

/-- The characters of a plain text are seen as they are. -/
theorem IsPlain.map_seen (h : IsPlain text) : text.map seen = text := by
  refine (List.map_congr_left fun c hmem => ?_).trans (List.map_id text)
  exact if_neg (by simp [(h c hmem).2])

/-- In a plain text a plain value occurs exactly when the text contains the value. -/
theorem occurs_iff_contains (hvalue : IsPlain value) (htext : IsPlain text) :
    Occurs value text ↔ Contains value text := by
  rw [occurs_iff_of_no_nul hvalue.no_nul htext.no_nul, hvalue.map_seen, htext.map_seen]

end CardBrowser.Search
