import Mathlib
import CardBrowser.Sql.Pattern

/-!
# What patterns match

`matchesText` looks at all end parts of a text at once. `matches_text_iff` says what comes of it:
the items match a text when the text falls into parts that they ask for one after the other. Read
`suffix_matches_cons` first, which says that the answers for an end part do not depend on what
stands before it.
-/

namespace CardBrowser.Sql

variable {likeness : Likeness} {items : List PatternItem} {item : PatternItem} {c : Char}
  {rest text : List Char}

/-- The items of a pattern ask for the characters of a text one after the other. -/
def Asks (likeness : Likeness) : List PatternItem → List Char → Prop
  | [], text => text = []
  | .anyRun :: items, text => ∃ run rest, text = run ++ rest ∧ Asks likeness items rest
  | item :: items, text =>
    ∃ c rest, text = c :: rest ∧ item.admits likeness c = true ∧ Asks likeness items rest

/-! ## End parts -/

/-- There is an answer for every end part. -/
theorem suffix_matches_ne_nil (items : List PatternItem) (text : List Char) :
    suffixMatches likeness items text ≠ [] := by
  induction items generalizing text with
  | nil => simp [suffixMatches]
  | cons item items ih =>
      cases item with
      | anyRun =>
          unfold suffixMatches
          cases h : suffixMatches likeness items text with
          | nil => exact absurd h (ih text)
          | cons here later => simp
      | _ => simp [suffixMatches]

/-- The first answer is that for the whole text. -/
theorem suffix_matches_eq (items : List PatternItem) (text : List Char) :
    suffixMatches likeness items text =
      matchesText likeness items text :: (suffixMatches likeness items text).tail := by
  unfold matchesText
  cases h : suffixMatches likeness items text with
  | nil => exact absurd h (suffix_matches_ne_nil items text)
  | cons here later => rfl

/-- The answers for an end part do not depend on what stands before it. -/
theorem suffix_matches_cons (items : List PatternItem) (c : Char) (rest : List Char) :
    suffixMatches likeness items (c :: rest) =
      matchesText likeness items (c :: rest) :: suffixMatches likeness items rest := by
  -- Every item works on the answers of the later items, so the tails are compared item by item.
  suffices h : (suffixMatches likeness items (c :: rest)).tail =
      suffixMatches likeness items rest by
    rw [← h]
    exact suffix_matches_eq items (c :: rest)
  induction items with
  | nil => rfl
  | cons item items ih =>
      have hsuffix : suffixMatches likeness items (c :: rest) =
          matchesText likeness items (c :: rest) :: suffixMatches likeness items rest := by
        rw [← ih]
        exact suffix_matches_eq items (c :: rest)
      cases item with
      | anyRun => simp only [suffixMatches, hsuffix, List.foldr_cons, List.tail_cons]
      | _ =>
          simp only [suffixMatches, ih]
          rw [suffix_matches_eq items rest]
          rfl

/-! ## One item at a time -/

/-- No items match the empty text only. -/
theorem matches_text_nil : matchesText likeness [] text = text.isEmpty := by
  cases text <;> rfl

/-- A run may be empty, or take a character and go on. -/
theorem matches_text_any_run_cons :
    matchesText likeness (.anyRun :: items) (c :: rest) =
      (matchesText likeness items (c :: rest) ||
        matchesText likeness (.anyRun :: items) rest) := by
  show (suffixMatches likeness (.anyRun :: items) (c :: rest)).headD false = _
  unfold suffixMatches
  rw [suffix_matches_cons]
  rfl

/-- At the end of the text a run is empty. -/
theorem matches_text_any_run_nil :
    matchesText likeness (.anyRun :: items) [] = matchesText likeness items [] := by
  have hlater : (suffixMatches likeness items []).tail = [] := by
    induction items with
    | nil => rfl
    | cons item items ih =>
        cases item with
        | anyRun =>
            unfold suffixMatches
            rw [suffix_matches_eq items [], ih]
            rfl
        | _ => rfl
  show (suffixMatches likeness (.anyRun :: items) []).headD false = _
  unfold suffixMatches
  rw [suffix_matches_eq items [], hlater]
  show (matchesText likeness items [] || false) = _
  rw [Bool.or_false]

/-- Any other item takes one character. -/
theorem matches_text_item_cons (h : item ≠ .anyRun) :
    matchesText likeness (item :: items) (c :: rest) =
      (item.admits likeness c && matchesText likeness items rest) := by
  have hsuffix : suffixMatches likeness (item :: items) (c :: rest) =
      (c :: rest).zipWith (fun c rest => item.admits likeness c && rest)
        (suffixMatches likeness items (c :: rest)).tail ++ [false] := by
    cases item with
    | anyRun => exact absurd rfl h
    | _ => rfl
  unfold matchesText
  rw [hsuffix, suffix_matches_cons, List.tail_cons, suffix_matches_eq items rest]
  rfl

/-- Any other item needs a character. -/
theorem matches_text_item_nil (h : item ≠ .anyRun) :
    matchesText likeness (item :: items) [] = false := by
  cases item with
  | anyRun => exact absurd rfl h
  | _ => rfl

/-! ## Whole patterns -/

/-- A run followed by items matches exactly the texts with an end part that the items match. -/
theorem matches_text_any_run_iff :
    matchesText likeness (.anyRun :: items) text = true ↔
      ∃ run rest, text = run ++ rest ∧ matchesText likeness items rest = true := by
  induction text with
  | nil =>
      rw [matches_text_any_run_nil]
      constructor
      · exact fun h => ⟨[], [], rfl, h⟩
      · intro h
        obtain ⟨run, rest, heq, h⟩ := h
        obtain ⟨rfl, rfl⟩ := List.append_eq_nil_iff.1 heq.symm
        exact h
  | cons c text ih =>
      rw [matches_text_any_run_cons, Bool.or_eq_true, ih]
      constructor
      · intro h
        rcases h with h | ⟨run, rest, rfl, h⟩
        · exact ⟨[], c :: text, rfl, h⟩
        · exact ⟨c :: run, rest, rfl, h⟩
      · intro h
        obtain ⟨run, rest, heq, h⟩ := h
        cases run with
        | nil =>
            left
            rw [show c :: text = rest from heq]
            exact h
        | cons d run =>
            obtain ⟨rfl, rfl⟩ := List.cons.inj heq
            exact Or.inr ⟨run, rest, rfl, h⟩

/-- Items match a text exactly when they ask for its characters. -/
theorem matches_text_iff : matchesText likeness items text = true ↔ Asks likeness items text := by
  induction items generalizing text with
  | nil => simp [matches_text_nil, Asks]
  | cons item items ih =>
      by_cases hitem : item = .anyRun
      · subst hitem
        simp only [matches_text_any_run_iff, ih, Asks]
      · have hasks : Asks likeness (item :: items) text ↔ ∃ c rest, text = c :: rest ∧
            item.admits likeness c = true ∧ Asks likeness items rest := by
          cases item with
          | anyRun => exact absurd rfl hitem
          | _ => exact Iff.rfl
        rw [hasks]
        cases text with
        | nil => simp [matches_text_item_nil hitem]
        | cons c text => simp [matches_text_item_cons hitem, ih]

/-- A run, a single character and another run ask for a text that holds such a character. -/
theorem matches_text_between (h : item ≠ .anyRun) :
    matchesText likeness [.anyRun, item, .anyRun] text = text.any (item.admits likeness) := by
  rw [Bool.eq_iff_iff, matches_text_any_run_iff, List.any_eq_true]
  constructor
  · intro h
    obtain ⟨run, rest, rfl, hrest⟩ := h
    cases rest with
    | nil => simp [matches_text_item_nil h] at hrest
    | cons c rest =>
        rw [matches_text_item_cons h, Bool.and_eq_true] at hrest
        exact ⟨c, List.mem_append_right _ List.mem_cons_self, hrest.1⟩
  · intro h
    obtain ⟨c, hmem, hadmits⟩ := h
    obtain ⟨run, rest, rfl⟩ := List.append_of_mem hmem
    refine ⟨run, c :: rest, rfl, ?_⟩
    rw [matches_text_item_cons h, hadmits, Bool.true_and, matches_text_any_run_iff]
    exact ⟨rest, [], (List.append_nil rest).symm, rfl⟩

end CardBrowser.Sql
