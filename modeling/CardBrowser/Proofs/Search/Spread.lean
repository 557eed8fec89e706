import Mathlib
import CardBrowser.Proofs.Search.Wildcard

/-!
# Values across separators

Texts that are stored as one have a separator between them, which a value cannot contain. Only a
star of the value can stand for it, so a value fits such a text exactly when it can be cut at stars
into parts that fit the single texts: `fits_intercalate_iff`. A value without a star fits one of
them or none.
-/

namespace CardBrowser.Search

variable {value first rest text before after : List Char} {texts : List (List Char)}
  {separator : Char}

/-! ## Parts of a value -/

/-- A value that is made of two fits a text that is made of two. -/
theorem fits_append_iff :
    Fits (first ++ rest) text ↔
      ∃ before after, text = before ++ after ∧ Fits first before ∧ Fits rest after := by
  constructor
  · intro h
    induction first generalizing text with
    | nil => exact ⟨[], text, rfl, .nil, h⟩
    | cons c first ih =>
        by_cases hstar : c = '*'
        · subst hstar
          obtain ⟨run, part, rfl, hpart⟩ := fits_star_iff.1 h
          obtain ⟨before, after, rfl, hbefore, hafter⟩ := ih hpart
          exact ⟨run ++ before, after, (List.append_assoc ..).symm, .star run hbefore, hafter⟩
        · obtain ⟨d, _, rfl, hfold, h⟩ := (fits_character_iff hstar).1 h
          obtain ⟨before, after, rfl, hbefore, hafter⟩ := ih h
          exact ⟨d :: before, after, rfl, .character hstar hfold hbefore, hafter⟩
  · rintro ⟨before, after, rfl, hbefore, hafter⟩
    induction hbefore with
    | nil => exact hafter
    | star run _ ih =>
        rw [List.append_assoc]
        exact .star run ih
    | character hstar hfold _ ih => exact .character hstar hfold ih

/-- A star fits every text. -/
theorem fits_star (text : List Char) : Fits ['*'] text := by
  have h := Fits.star text .nil
  rwa [List.append_nil] at h

/-- A text contains a value if the value between two stars fits it. -/
theorem contains_iff_fits : Contains value text ↔ Fits ('*' :: (value ++ ['*'])) text := by
  rw [fits_star_iff]
  simp only [fits_append_iff]
  constructor
  · rintro ⟨before, part, after, rfl, h⟩
    exact ⟨before, part ++ after, List.append_assoc .., part, after, rfl, h, fits_star after⟩
  · rintro ⟨before, _, rfl, part, after, rfl, h, -⟩
    exact ⟨before, part, after, (List.append_assoc ..).symm, h⟩

instance (value text : List Char) : Decidable (Contains value text) :=
  decidable_of_iff _ contains_iff_fits.symm

/-- A value without a star fits the texts that differ from it in the case of letters. -/
theorem fits_iff_of_no_star (h : '*' ∉ value) :
    Fits value text ↔ text.map Text.foldCase = value.map Text.foldCase := by
  induction value generalizing text with
  | nil => rw [fits_nil_iff, List.map_nil, List.map_eq_nil_iff]
  | cons c value ih =>
      obtain ⟨hstar, hvalue⟩ := List.ne_and_not_mem_of_not_mem_cons h
      rw [fits_character_iff hstar.symm, List.map_cons, List.map_eq_cons_iff]
      simp only [ih hvalue, @eq_comm _ (Text.foldCase c)]

/-! ## Separators -/

/-- A character before the letters differs from every other one also where case does not count. -/
theorem eq_of_fold_eq {c d : Char} (hc : c.toNat < 65) (h : Text.foldCase d = Text.foldCase c) :
    d = c := by
  have hfold : Text.foldCase c = c := by
    unfold Text.foldCase
    refine if_neg fun hletter => ?_
    have hlow : 'A'.toNat ≤ c.toNat := hletter.1
    have ha : 'A'.toNat = 65 := rfl
    omega
  rw [hfold] at h
  unfold Text.foldCase at h
  split at h
  · rename_i hletter
    have hlow : 'A'.toNat ≤ d.toNat := hletter.1
    have hhigh : d.toNat ≤ 'Z'.toNat := hletter.2
    have ha : 'A'.toNat = 65 := rfl
    have hz : 'Z'.toNat = 90 := rfl
    have hvalid : (d.toNat + 32).isValidChar := Or.inl (by omega)
    have htoNat : (Char.ofNat (d.toNat + 32)).toNat = d.toNat + 32 := by
      rw [Char.toNat_ofNat, if_pos hvalid]
    rw [h] at htoNat
    omega
  · exact h

/-- A star stands for what comes before a text that fits. -/
theorem fits_star_append (h : Fits ('*' :: rest) after) (before : List Char) :
    Fits ('*' :: rest) (before ++ after) := by
  obtain ⟨run, part, rfl, hpart⟩ := fits_star_iff.1 h
  rw [← List.append_assoc]
  exact .star (before ++ run) hpart

/-- A value without the separator that fits two texts with the separator between them has a star
that stands for the separator. -/
theorem exists_cut_of_fits (hseparator : separator.toNat < 65) (hvalue : separator ∉ value)
    (h : Fits value (before ++ separator :: after)) :
    ∃ first rest, value = first ++ '*' :: rest ∧ Fits (first ++ ['*']) before ∧
      Fits ('*' :: rest) after := by
  induction value generalizing before with
  | nil => simp [fits_nil_iff] at h
  | cons c value ih =>
      obtain ⟨hother, hlater⟩ := List.ne_and_not_mem_of_not_mem_cons hvalue
      by_cases hc : c = '*'
      · subst hc
        obtain ⟨run, part, htext, hpart⟩ := fits_star_iff.1 h
        have hcut : ∀ tail, before = run ++ tail → part = tail ++ separator :: after →
            ∃ first rest, '*' :: value = first ++ '*' :: rest ∧ Fits (first ++ ['*']) before ∧
              Fits ('*' :: rest) after := by
          rintro tail rfl rfl
          obtain ⟨first, rest, rfl, hfirst, hrest⟩ := ih hlater hpart
          exact ⟨'*' :: first, rest, rfl, .star run hfirst, hrest⟩
        rcases List.append_eq_append_iff.1 htext with ⟨tail, hrun, htail⟩ | ⟨tail, hrun, hpart⟩
        · -- The star reaches beyond the separator, unless it ends directly before it.
          cases tail with
          | nil => exact hcut [] (by simpa using hrun.symm) htail.symm
          | cons d tail =>
              obtain ⟨-, rfl⟩ := List.cons.inj htail
              exact ⟨[], value, rfl, fits_star before, .star tail hpart⟩
        · exact hcut tail hrun hpart
      · obtain ⟨d, part, htext, hfold, hpart⟩ := (fits_character_iff hc).1 h
        cases before with
        | nil =>
            obtain ⟨rfl, -⟩ := List.cons.inj htext
            exact absurd (eq_of_fold_eq hseparator hfold).symm hother
        | cons e before =>
            obtain ⟨rfl, rfl⟩ := List.cons.inj htext
            obtain ⟨first, rest, rfl, hfirst, hrest⟩ := ih hlater hpart
            exact ⟨c :: first, rest, rfl, .character hc hfold hfirst, hrest⟩

/-- A value without the separator fits two texts with the separator between them if it can be cut at
a star, which stands for what is left of the first text, the separator, and the beginning of the
second. -/
theorem fits_append_separator_iff (hseparator : separator.toNat < 65)
    (hvalue : separator ∉ value) :
    Fits value (before ++ separator :: after) ↔
      ∃ first rest, value = first ++ '*' :: rest ∧ Fits (first ++ ['*']) before ∧
        Fits ('*' :: rest) after := by
  constructor
  · exact exists_cut_of_fits hseparator hvalue
  · rintro ⟨first, rest, rfl, hfirst, hrest⟩
    obtain ⟨part, run, rfl, hpart, -⟩ := fits_append_iff.1 hfirst
    refine fits_append_iff.2 ⟨part, run ++ separator :: after, List.append_assoc .., hpart, ?_⟩
    exact fits_star_append (fits_star_append hrest [separator]) run

/-! ## Texts in a row -/

/-- A value is spread over texts that stand in a row: it is cut at stars, and its parts fit the
texts one by one. A star where it is cut stands for the end of one text and the beginning of the
next. -/
inductive Spread : List Char → List (List Char) → Prop
  | whole {value text : List Char} (h : Fits value text) : Spread value [text]
  | cut {first rest text : List Char} {texts : List (List Char)}
      (hfirst : Fits (first ++ ['*']) text) (hrest : Spread ('*' :: rest) texts) :
      Spread (first ++ '*' :: rest) (text :: texts)

/-- A value is spread over one text at least. -/
theorem Spread.ne_nil (h : Spread value texts) : texts ≠ [] := by
  cases h with
  | whole => exact List.cons_ne_nil _ _
  | cut => exact List.cons_ne_nil _ _

/-- The ways to spread a value over a text and others after it. -/
theorem spread_cons_iff :
    Spread value (text :: texts) ↔ (texts = [] ∧ Fits value text) ∨
      ∃ first rest, value = first ++ '*' :: rest ∧ Fits (first ++ ['*']) text ∧
        Spread ('*' :: rest) texts := by
  constructor
  · intro h
    cases h with
    | whole h => exact Or.inl ⟨rfl, h⟩
    | cut hfirst hrest => exact Or.inr ⟨_, _, rfl, hfirst, hrest⟩
  · rintro (⟨rfl, h⟩ | ⟨first, rest, rfl, hfirst, hrest⟩)
    · exact .whole h
    · exact .cut hfirst hrest

/-- A value without the separator fits texts with separators between them if it is spread over the
texts. -/
theorem fits_intercalate_iff (hseparator : separator.toNat < 65) (hvalue : separator ∉ value)
    (hne : texts ≠ []) :
    Fits value ([separator].intercalate texts) ↔ Spread value texts := by
  induction texts generalizing value with
  | nil => exact absurd rfl hne
  | cons text texts ih =>
      rw [spread_cons_iff]
      cases texts with
      | nil =>
          rw [List.intercalate_singleton]
          constructor
          · exact fun h => Or.inl ⟨rfl, h⟩
          · rintro (⟨-, h⟩ | ⟨_, _, -, -, hrest⟩)
            · exact h
            · exact absurd rfl hrest.ne_nil
      | cons other texts =>
          rw [List.intercalate_cons_cons, List.append_assoc, List.singleton_append,
            fits_append_separator_iff hseparator hvalue,
            or_iff_right fun h => List.cons_ne_nil _ _ h.1]
          refine exists_congr fun first => exists_congr fun rest => and_congr_right fun hcut =>
            and_congr_right fun _ => ih (fun hmem => hvalue ?_) (List.cons_ne_nil _ _)
          rw [hcut]
          exact List.mem_append_right _ hmem

/-- A value without a star is spread over a single text only. -/
theorem spread_iff_of_no_star (h : '*' ∉ value) :
    Spread value texts ↔ ∃ text, texts = [text] ∧ Fits value text := by
  constructor
  · intro hspread
    cases hspread with
    | whole hfits => exact ⟨_, rfl, hfits⟩
    | cut _ _ => exact absurd (List.mem_append_right _ List.mem_cons_self) h
  · rintro ⟨text, rfl, hfits⟩
    exact .whole hfits

/-- A star is spread over any texts. -/
theorem spread_star (hne : texts ≠ []) : Spread ['*'] texts := by
  induction texts with
  | nil => exact absurd rfl hne
  | cons text texts ih =>
      by_cases hlast : texts = []
      · exact spread_cons_iff.2 (Or.inl ⟨hlast, fits_star text⟩)
      · exact spread_cons_iff.2 (Or.inr ⟨[], [], rfl, fits_star text, ih hlast⟩)

/-- A value that one of the texts contains is spread over them between two stars. -/
theorem spread_of_contains (hmem : text ∈ texts) (h : Contains value text) :
    Spread ('*' :: (value ++ ['*'])) texts := by
  induction texts with
  | nil => cases hmem
  | cons other texts ih =>
      rw [spread_cons_iff]
      rcases List.mem_cons.1 hmem with rfl | hmem
      · by_cases hlast : texts = []
        · exact Or.inl ⟨hlast, contains_iff_fits.1 h⟩
        · exact Or.inr ⟨'*' :: value, [], rfl, contains_iff_fits.1 h, spread_star hlast⟩
      · exact Or.inr ⟨[], _, rfl, fits_star other, ih hmem⟩

/-- A value without a star is spread over texts between two stars only if one of them contains
it. -/
theorem spread_iff_contains (hvalue : '*' ∉ value) :
    Spread ('*' :: (value ++ ['*'])) texts ↔ ∃ text ∈ texts, Contains value text := by
  constructor
  · intro h
    induction texts with
    | nil => exact absurd rfl h.ne_nil
    | cons text texts ih =>
        rcases spread_cons_iff.1 h with ⟨-, hfits⟩ | ⟨first, rest, hcut, hfirst, hrest⟩
        · exact ⟨text, List.mem_cons_self, contains_iff_fits.2 hfits⟩
        · cases first with
          | nil =>
              obtain rfl := (List.cons.inj hcut).2
              obtain ⟨other, hmem, hcontains⟩ := ih hrest
              exact ⟨other, List.mem_cons_of_mem _ hmem, hcontains⟩
          | cons c first =>
              obtain ⟨rfl, htail⟩ := List.cons.inj hcut
              -- The only other star is the last one.
              obtain ⟨rfl, -⟩ :=
                (List.append_cons_inj_of_notMem hvalue List.not_mem_nil).1 htail
              exact ⟨text, List.mem_cons_self, contains_iff_fits.2 hfirst⟩
  · rintro ⟨text, hmem, h⟩
    exact spread_of_contains hmem h

/-! ## Between two separators -/

/-- The parts of a text that stand between two separators. -/
def between (separator : Char) (text : List Char) : List (List Char) :=
  (text.splitOn separator).tail.dropLast

/-- Texts in a row, first some and then others, have a separator in the middle. -/
theorem intercalate_append {others : List (List Char)} (hne : texts ≠ []) (hothers : others ≠ []) :
    [separator].intercalate (texts ++ others) =
      [separator].intercalate texts ++ separator :: [separator].intercalate others := by
  induction texts with
  | nil => exact absurd rfl hne
  | cons text texts ih =>
      by_cases hlast : texts = []
      · subst hlast
        rw [List.singleton_append, List.intercalate_cons_of_ne_nil hothers,
          List.intercalate_singleton, List.append_assoc, List.singleton_append]
      · rw [List.cons_append, List.intercalate_cons_of_ne_nil (by simp [hlast]), ih hlast,
          List.intercalate_cons_of_ne_nil hlast]
        simp

/-- A value between two separators fits a text between two separators. -/
theorem fits_between_iff (hseparator : separator.toNat < 65) (hstar : separator ≠ '*') :
    Fits (separator :: (value ++ [separator])) text ↔
      ∃ middle, text = separator :: (middle ++ [separator]) ∧ Fits value middle := by
  have hself : ∀ {rest text : List Char}, Fits (separator :: rest) text ↔
      ∃ after, text = separator :: after ∧ Fits rest after := by
    intro rest text
    rw [fits_character_iff hstar]
    constructor
    · rintro ⟨d, after, rfl, hfold, h⟩
      rw [eq_of_fold_eq hseparator hfold.symm]
      exact ⟨after, rfl, h⟩
    · rintro ⟨after, rfl, h⟩
      exact ⟨separator, after, rfl, rfl, h⟩
  simp only [hself, fits_append_iff, fits_nil_iff]
  constructor
  · rintro ⟨_, rfl, middle, _, rfl, h, _, rfl, rfl⟩
    exact ⟨middle, rfl, h⟩
  · rintro ⟨middle, rfl, h⟩
    exact ⟨_, rfl, middle, _, rfl, h, _, rfl, rfl⟩

/-- Parts of a text that stand in a row, each of them between two separators, have a separator
before and after them. -/
theorem exists_of_infix_between {run : List (List Char)} (h : run <:+: between separator text)
    (hne : run ≠ []) : ∃ before after,
      text = before ++ separator :: ([separator].intercalate run ++ separator :: after) := by
  unfold between at h
  cases hsplit : text.splitOn separator with
  | nil => exact absurd hsplit (List.splitOn_ne_nil _ _)
  | cons first others =>
      rw [hsplit, List.tail_cons] at h
      rcases List.eq_nil_or_concat others with rfl | ⟨middle, last, rfl⟩
      · exact absurd (List.infix_nil.1 h) hne
      · rw [List.concat_eq_append, List.dropLast_concat] at h
        obtain ⟨left, right, rfl⟩ := h
        refine ⟨[separator].intercalate (first :: left),
          [separator].intercalate (right ++ [last]), ?_⟩
        have htext : [separator].intercalate (text.splitOn separator) = text :=
          List.intercalate_splitOn separator
        rw [← intercalate_append hne (by simp),
          ← intercalate_append (List.cons_ne_nil _ _) (by simp), ← htext, hsplit]
        simp

/-- A text contains a value between two separators if the value is spread over parts of the text
that stand in a row, each of them between two separators. -/
theorem contains_between_iff (hseparator : separator.toNat < 65) (hstar : separator ≠ '*')
    (hvalue : separator ∉ value) :
    Contains (separator :: (value ++ [separator])) text ↔
      ∃ run, run <:+: between separator text ∧ Spread value run := by
  unfold Contains
  simp only [fits_between_iff hseparator hstar]
  constructor
  · rintro ⟨before, _, after, rfl, middle, rfl, h⟩
    refine ⟨middle.splitOn separator, ?_, ?_⟩
    · have hsplit : (before ++ separator :: (middle ++ [separator]) ++ after).splitOn separator =
          before.splitOn separator ++ middle.splitOn separator ++ after.splitOn separator := by
        rw [List.append_assoc, List.cons_append, List.splitOn_append_cons_self, List.append_assoc,
          List.singleton_append, List.splitOn_append_cons_self, List.append_assoc]
      unfold between
      rw [hsplit, List.append_assoc, List.tail_append_of_ne_nil (List.splitOn_ne_nil _ _),
        List.dropLast_append_of_ne_nil (by simp [List.splitOn_ne_nil]),
        List.dropLast_append_of_ne_nil (List.splitOn_ne_nil _ _)]
      exact ⟨_, _, List.append_assoc ..⟩
    · rw [← fits_intercalate_iff hseparator hvalue (List.splitOn_ne_nil _ _),
        List.intercalate_splitOn]
      exact h
  · rintro ⟨run, hrun, h⟩
    obtain ⟨before, after, rfl⟩ := exists_of_infix_between hrun h.ne_nil
    exact ⟨before, _, after, by simp, [separator].intercalate run, rfl,
      (fits_intercalate_iff hseparator hvalue h.ne_nil).2 h⟩

end CardBrowser.Search
