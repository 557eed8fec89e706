import Mathlib
import CardBrowser.Search.Term

/-!
# The words of a search text

`readWords?` takes a text apart in one pass. What comes of it can be said without the pass: the
quotes are taken out, every other character being marked as quoted or not, and what is left is split
at the blanks that are not quoted. A text has words exactly when its quotes come in pairs:
`words_eq`.
-/

namespace CardBrowser.Search

/-- The characters of a text other than quotes, each marked as quoted or not, where `quoted` tells
whether the text begins inside quotes. -/
def marked (quoted : Bool) : List Char → List (Char × Bool)
  | [] => []
  | c :: rest => if c = '"' then marked (!quoted) rest else (c, quoted) :: marked quoted rest

/-- Whether a marked character stands between two words. -/
def separates (character : Char × Bool) : Bool :=
  Text.isBlank character.1 && !character.2

/-- The parts of a text between blanks outside of quotes, without the quotes. -/
def parts (quoted : Bool) (text : List Char) : List (List Char) :=
  ((marked quoted text).splitOnP separates).map (·.map Prod.fst)

/-- The words of a search text: its parts that are not empty. -/
def words (text : List Char) : List (List Char) :=
  (parts false text).filter (· ≠ [])

/-- Whether the quotes of a text come in pairs, one quote having been opened before if `quoted`. -/
def isBalanced (quoted : Bool) (text : List Char) : Bool :=
  (text.count '"' + quoted.toNat) % 2 == 0

/-- A quote is not marked, and what follows it is read inside quotes if it was not. -/
theorem marked_quote (quoted : Bool) (rest : List Char) :
    marked quoted ('"' :: rest) = marked (!quoted) rest := if_pos rfl

/-- Any other character is marked. -/
theorem marked_character {c : Char} (quoted : Bool) (hquote : c ≠ '"') (rest : List Char) :
    marked quoted (c :: rest) = (c, quoted) :: marked quoted rest := if_neg hquote

/-- A quote is taken out, and what follows it is read inside quotes if it was not. -/
theorem parts_quote (quoted : Bool) (rest : List Char) :
    parts quoted ('"' :: rest) = parts (!quoted) rest := by
  unfold parts
  rw [marked_quote]

/-- A blank outside of quotes ends a part, and any other character begins the next one. -/
theorem parts_character {c : Char} (quoted : Bool) (hquote : c ≠ '"') (rest : List Char) :
    parts quoted (c :: rest) =
      if Text.isBlank c && !quoted then [] :: parts quoted rest
      else (parts quoted rest).modifyHead (c :: ·) := by
  unfold parts
  rw [marked_character quoted hquote, List.splitOnP_cons_eq_if_modifyHead]
  show List.map _ (if Text.isBlank c && !quoted then _ else _) = _
  split
  · rfl
  · cases (marked quoted rest).splitOnP separates <;> rfl

/-- Another quote makes a pair of one that is open, and opens one if none is. -/
theorem is_balanced_quote (quoted : Bool) (rest : List Char) :
    isBalanced quoted ('"' :: rest) = isBalanced (!quoted) rest := by
  unfold isBalanced
  rw [List.count_cons_self, Bool.eq_iff_iff, beq_iff_eq, beq_iff_eq]
  cases quoted with
  | false => exact Iff.rfl
  | true =>
      show (rest.count '"' + 1 + 1) % 2 = 0 ↔ rest.count '"' % 2 = 0
      omega

/-- The pass over a text gives its parts if its quotes come in pairs. -/
theorem read_words_eq (quoted : Bool) (text : List Char) :
    (readWords? quoted text).map (fun (word, later) => word :: later) =
      if isBalanced quoted text then some (parts quoted text) else none := by
  induction text generalizing quoted with
  | nil => cases quoted <;> rfl
  | cons c rest ih =>
      unfold readWords?
      by_cases hquote : c = '"'
      · subst hquote
        rw [if_pos rfl, ih, is_balanced_quote, parts_quote]
      · have hbalanced : isBalanced quoted (c :: rest) = isBalanced quoted rest := by
          unfold isBalanced
          rw [List.count_cons_of_ne hquote]
        -- What is added to the words of the rest is added to its parts.
        have hadd : ∀ add : List (List Char) → List (List Char),
            ((readWords? quoted rest).map fun (word, later) => add (word :: later)) =
              if isBalanced quoted rest then some (add (parts quoted rest)) else none := by
          intro add
          have hmap := congrArg (Option.map add) (ih quoted)
          rw [Option.map_map] at hmap
          refine hmap.trans ?_
          split <;> rfl
        rw [if_neg hquote, parts_character quoted hquote, hbalanced]
        split
        · rename_i hblank
          obtain rfl : quoted = false := by simpa using (Bool.and_eq_true_iff.1 hblank).2
          rw [Option.map_map]
          exact hadd ([] :: ·)
        · rw [Option.map_map]
          exact hadd (·.modifyHead (c :: ·))

/-- A search text has words exactly when its quotes come in pairs. -/
theorem words_eq (text : List Char) :
    words? text = if text.count '"' % 2 = 0 then some (words text) else none := by
  have hread := congrArg (Option.map (·.filter (· ≠ []))) (read_words_eq false text)
  rw [Option.map_map] at hread
  refine Eq.trans hread ?_
  unfold isBalanced
  simp only [Bool.toNat_false, Nat.add_zero, beq_iff_eq]
  split <;> rfl

/-- The characters of a part are characters of the text. -/
theorem subset_of_mem_parts {quoted : Bool} {text word : List Char}
    (h : word ∈ parts quoted text) : word ⊆ text := by
  induction text generalizing quoted word with
  | nil =>
      obtain rfl : word = [] := by simpa [parts, marked] using h
      exact List.Subset.refl _
  | cons c rest ih =>
      by_cases hquote : c = '"'
      · subst hquote
        rw [parts_quote] at h
        exact List.subset_cons_of_subset _ (ih h)
      · rw [parts_character quoted hquote] at h
        split at h
        · rcases List.mem_cons.1 h with rfl | h
          · exact List.nil_subset _
          · exact List.subset_cons_of_subset c (ih h)
        · cases hparts : parts quoted rest with
          | nil => simp [hparts] at h
          | cons first others =>
              rw [hparts] at h
              rcases List.mem_cons.1 h with rfl | h
              · exact List.cons_subset_cons c (ih (hparts ▸ List.mem_cons_self))
              · exact List.subset_cons_of_subset c (ih (hparts ▸ List.mem_cons_of_mem _ h))

/-- The characters of a word are characters of the text. -/
theorem subset_of_mem_words {text word : List Char} (h : word ∈ words text) : word ⊆ text :=
  subset_of_mem_parts (List.mem_of_mem_filter h)

/-! ## Texts made of texts -/

/-- A text without quotes is marked as the place where it stands. -/
theorem marked_of_no_quote {text : List Char} (h : '"' ∉ text) (quoted : Bool) (rest : List Char) :
    marked quoted (text ++ rest) = (text.map fun c => (c, quoted)) ++ marked quoted rest := by
  induction text with
  | nil => rfl
  | cons c text ih =>
      obtain ⟨hquote, htext⟩ := List.ne_and_not_mem_of_not_mem_cons h
      rw [List.cons_append, marked_character quoted hquote.symm, ih htext, List.map_cons,
        List.cons_append]

/-- What follows a text whose quotes come in pairs stands outside of quotes. -/
theorem marked_append {first : List Char} {quoted : Bool} (h : isBalanced quoted first = true)
    (second : List Char) :
    marked quoted (first ++ second) = marked quoted first ++ marked false second := by
  induction first generalizing quoted with
  | nil =>
      cases quoted with
      | false => rfl
      | true => cases h
  | cons c first ih =>
      by_cases hquote : c = '"'
      · subst hquote
        rw [is_balanced_quote] at h
        rw [List.cons_append, marked_quote, marked_quote, ih h]
      · have hbalanced : isBalanced quoted first = true := by
          unfold isBalanced at h ⊢
          rwa [List.count_cons_of_ne hquote] at h
        rw [List.cons_append, marked_character quoted hquote, marked_character quoted hquote,
          ih hbalanced, List.cons_append]

/-- Two texts with a space between them have the words of both, if the quotes of the first come in
pairs. -/
theorem words_append {first : List Char} (h : first.count '"' % 2 = 0) (second : List Char) :
    words (first ++ ' ' :: second) = words first ++ words second := by
  have hbalanced : isBalanced false first = true := by
    unfold isBalanced
    rw [Bool.toNat_false, Nat.add_zero, h]
    rfl
  have hmarked : marked false (first ++ ' ' :: second) =
      marked false first ++ (' ', false) :: marked false second := marked_append hbalanced _
  have hspace : separates (' ', false) = true := by decide
  unfold words parts
  rw [hmarked, List.splitOnP_append_cons _ _ hspace, List.map_append, List.filter_append]

/-- A part in which nothing separates is a word. -/
theorem words_of_marked {text word : List Char} (quoted : Bool)
    (hmarked : marked false text = word.map fun c => (c, quoted)) (hne : word ≠ [])
    (h : ∀ c ∈ word, separates (c, quoted) = false) : words text = [word] := by
  have hsplit : (word.map fun c => (c, quoted)).splitOnP separates =
      [word.map fun c => (c, quoted)] := by
    refine List.splitOnP_eq_singleton fun character hmem => ?_
    obtain ⟨c, hc, rfl⟩ := List.mem_map.1 hmem
    exact h c hc
  have hfirst : (word.map fun c => (c, quoted)).map Prod.fst = word := by
    rw [List.map_map]
    exact List.map_id word
  unfold words parts
  rw [hmarked, hsplit, List.map_singleton, hfirst]
  exact List.filter_cons_of_pos (decide_eq_true hne)

/-- A text without quotes and blanks is a word. -/
theorem words_singleton {text : List Char} (hne : text ≠ []) (hquote : '"' ∉ text)
    (hblank : ∀ c ∈ text, Text.isBlank c = false) : words text = [text] := by
  refine words_of_marked false ?_ hne fun c hmem => ?_
  · have hmarked := marked_of_no_quote hquote false []
    rwa [List.append_nil, marked, List.append_nil] at hmarked
  · exact Bool.and_eq_false_iff.2 (Or.inl (hblank c hmem))

/-- A phrase between quotes is a word, whatever blanks there are in it. -/
theorem words_phrase {phrase : List Char} (hne : phrase ≠ []) (hquote : '"' ∉ phrase) :
    words ('"' :: (phrase ++ ['"'])) = [phrase] := by
  refine words_of_marked true ?_ hne fun c _ => ?_
  · show marked true (phrase ++ ['"']) = _
    rw [marked_of_no_quote hquote]
    exact List.append_nil _
  · exact Bool.and_eq_false_iff.2 (Or.inr rfl)

end CardBrowser.Search
