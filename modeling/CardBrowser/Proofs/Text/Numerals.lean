import Mathlib
import CardBrowser.Text.Ascii

/-!
# Decimal numerals

Which texts are numbers, said by what they are made of: a sign, digits, and blanks around them.
`read_int64_eq_some_iff` says that `readInt64?` accepts these texts, and no others, if the number
fits in 64 bits; `read_trimmed_iff` says the same of a text that is trimmed first.
-/

namespace CardBrowser.Text

variable {text digits : List Char} {n : Int}

/-- Digits, at least one, whose last one counts ones, the one before it tens, and so on. -/
structure WritesNatural (digits : List Char) (n : Nat) : Prop where
  ne_nil : digits ≠ []
  decimal : ∀ c ∈ digits, '0' ≤ c ∧ c ≤ '9'
  value : n = Nat.ofDigits 10 (digits.reverse.map fun c => c.toNat - '0'.toNat)

/-- Digits after at most one sign. -/
inductive WritesInteger : List Char → Int → Prop
  | unsigned {digits : List Char} {n : Nat} (h : WritesNatural digits n) : WritesInteger digits n
  | plus {digits : List Char} {n : Nat} (h : WritesNatural digits n) :
      WritesInteger ('+' :: digits) n
  | minus {digits : List Char} {n : Nat} (h : WritesNatural digits n) :
      WritesInteger ('-' :: digits) (-n)

/-- A number of 64 bits between blanks. -/
def WritesInt64 (text : List Char) (n : Int) : Prop :=
  ∃ before numeral after, text = before ++ numeral ++ after ∧
    (∀ c ∈ before, isBlank c = true) ∧ (∀ c ∈ after, isBlank c = true) ∧
    WritesInteger numeral n ∧ -2 ^ 63 ≤ n ∧ n < 2 ^ 63

/-! ## Digits -/

/-- The first digit counts the highest power of ten. -/
theorem digits_value_eq (digits : List Char) :
    digitsValue digits = Nat.ofDigits 10 (digits.reverse.map fun c => c.toNat - '0'.toNat) := by
  -- The digits are read from the left, so what has been read so far is generalized.
  have key : ∀ (digits : List Char) (value : Nat),
      digits.foldl (fun value digit => 10 * value + (digit.toNat - '0'.toNat)) value =
        Nat.ofDigits 10 (digits.reverse.map fun c => c.toNat - '0'.toNat) +
          10 ^ digits.length * value := by
    intro digits
    induction digits with
    | nil => simp
    | cons c digits ih =>
        intro value
        rw [List.foldl_cons, ih, List.reverse_cons, List.map_append, Nat.ofDigits_append]
        simp only [List.map_cons, List.map_nil, Nat.ofDigits_singleton, List.length_map,
          List.length_reverse, List.length_cons]
        ring
  unfold digitsValue
  rw [key, Nat.mul_zero, Nat.add_zero]

/-- The characters of a natural number are digits. -/
theorem digits_of_natural (n : Nat) : ∀ c ∈ Nat.toDigits 10 n, isDigit c = true := by
  intro c hmem
  have hdigit := Nat.isDigit_of_mem_toDigits (by decide) (by decide) hmem
  simpa [isDigit, Char.isDigit, Char.le_def] using hdigit

/-- A natural number has the value that its digits have. -/
theorem digits_value_natural (n : Nat) : digitsValue (Nat.toDigits 10 n) = n :=
  Nat.ofDigitChars_toDigits (by decide) (by decide)

/-- Only zero is written with a zero in front. -/
theorem head_of_natural {n : Nat} (hn : 0 < n) : (Nat.toDigits 10 n).head? ≠ some '0' := by
  induction n using Nat.strong_induction_on with
  | _ n ih =>
      rw [Nat.toDigits_eq_if (by decide)]
      split_ifs with hdigit
      · rw [List.head?_cons, ne_eq, Option.some.injEq]
        interval_cases n <;> decide
      · rw [List.head?_append_of_ne_nil _ Nat.toDigits_ne_nil]
        exact ih (n / 10) (by omega) (by omega)

/-- Digits write a number below the power of ten of their count. -/
theorem digits_value_lt (h : ∀ c ∈ digits, isDigit c = true) :
    digitsValue digits < 10 ^ digits.length := by
  rw [digits_value_eq, ← List.length_reverse, ← List.length_map fun c : Char => c.toNat - '0'.toNat]
  refine Nat.ofDigits_lt_base_pow_length (by decide) fun d hmem => ?_
  obtain ⟨c, hc, rfl⟩ := List.mem_map.1 hmem
  have hdigit := h c (List.mem_reverse.1 hc)
  simp only [isDigit, Bool.and_eq_true, decide_eq_true_eq] at hdigit
  have hlast : c.toNat ≤ '9'.toNat := hdigit.2
  have hnine : '9'.toNat = 57 := rfl
  have hzero : '0'.toNat = 48 := rfl
  omega

/-- Zeros in front of digits do not count. -/
theorem digits_value_padded (count : Nat) (digits : List Char) :
    digitsValue (List.replicate count '0' ++ digits) = digitsValue digits := by
  unfold digitsValue
  rw [List.foldl_append]
  congr 1
  induction count with
  | zero => rfl
  | succ count ih => exact ih

/-- Digits are read as the number that they write. -/
theorem read_natural_eq_some_iff {n : Nat} :
    readNatural? digits = some n ↔ WritesNatural digits n := by
  have hall : digits.all isDigit = true ↔ ∀ c ∈ digits, '0' ≤ c ∧ c ≤ '9' := by
    simp [isDigit]
  unfold readNatural?
  constructor
  · intro h
    split at h
    · rename_i hdigits
      obtain rfl := Option.some.inj h
      exact ⟨hdigits.1, hall.1 hdigits.2, digits_value_eq digits⟩
    · cases h
  · rintro ⟨hne, hdigits, rfl⟩
    rw [if_pos ⟨hne, hall.2 hdigits⟩, digits_value_eq]

/-- Digits do not begin with a sign. -/
theorem WritesNatural.not_sign {n : Nat} (h : WritesNatural digits n) (rest : List Char) :
    digits ≠ '-' :: rest ∧ digits ≠ '+' :: rest := by
  constructor
  · rintro rfl
    exact absurd (h.decimal '-' List.mem_cons_self) (by decide)
  · rintro rfl
    exact absurd (h.decimal '+' List.mem_cons_self) (by decide)

/-! ## Integers -/

/-- The bounds of a signed word of 64 bits. -/
theorem is_int64_iff : isInt64 n = true ↔ -2 ^ 63 ≤ n ∧ n < 2 ^ 63 := by
  unfold isInt64
  rw [Bool.and_eq_true, decide_eq_true_eq, decide_eq_true_eq]
  omega

/-- What is made of the number that digits write. -/
theorem map_natural_eq_some_iff {f : Int → Int} :
    ((do let m ← readNatural? digits; pure (m : Int)).map f) = some n ↔
      ∃ m : Nat, WritesNatural digits m ∧ f m = n := by
  simp only [← read_natural_eq_some_iff]
  cases readNatural? digits <;> simp

/-- A number is read from the texts that write it, and only if it fits in 64 bits. -/
theorem read_int64_eq_some_iff :
    readInt64? text = some n ↔ WritesInteger text n ∧ isInt64 n = true := by
  unfold readInt64?
  rw [Option.filter_eq_some_iff]
  refine and_congr_left fun _ => ?_
  constructor
  · intro h
    split at h
    · obtain ⟨m, hm, rfl⟩ := map_natural_eq_some_iff.1 h
      exact .minus hm
    · obtain ⟨m, hm, rfl⟩ := map_natural_eq_some_iff.1 h
      exact .plus hm
    · obtain ⟨m, hm, rfl⟩ := map_natural_eq_some_iff.1 h
      exact .unsigned hm
  · intro h
    cases h with
    | unsigned h =>
        split
        · exact absurd rfl (h.not_sign _).1
        · exact absurd rfl (h.not_sign _).2
        · exact map_natural_eq_some_iff.2 ⟨_, h, rfl⟩
    | plus h => exact map_natural_eq_some_iff.2 ⟨_, h, rfl⟩
    | minus h => exact map_natural_eq_some_iff.2 ⟨_, h, rfl⟩

/-- A number has no blanks in it. -/
theorem WritesInteger.not_blank (h : WritesInteger text n) : ∀ c ∈ text, isBlank c = false := by
  have hdigits : ∀ {digits : List Char} {n : Nat}, WritesNatural digits n →
      ∀ c ∈ digits, isBlank c = false := by
    intro digits n h c hmem
    obtain ⟨hlow, hhigh⟩ := h.decimal c hmem
    have hlow : 48 ≤ c.toNat := hlow
    have hhigh : c.toNat ≤ 57 := hhigh
    simp only [isBlank, Bool.or_eq_false_iff, Bool.and_eq_false_iff, decide_eq_false_iff_not,
      beq_eq_false_iff_ne]
    omega
  cases h with
  | unsigned h => exact hdigits h
  | plus h => exact List.forall_mem_cons.2 ⟨by decide, hdigits h⟩
  | minus h => exact List.forall_mem_cons.2 ⟨by decide, hdigits h⟩

/-- A number has characters. -/
theorem WritesInteger.ne_nil (h : WritesInteger text n) : text ≠ [] := by
  cases h with
  | unsigned h => exact h.ne_nil
  | plus h => exact List.cons_ne_nil _ _
  | minus h => exact List.cons_ne_nil _ _

/-! ## Numbers between blanks -/

/-- A text is trimmed to what stands between its blanks. -/
theorem trim_blanks_eq (text : List Char) : ∃ before after,
    text = before ++ trimBlanks text ++ after ∧
      (∀ c ∈ before, isBlank c = true) ∧ ∀ c ∈ after, isBlank c = true := by
  refine ⟨text.takeWhile isBlank,
    ((text.dropWhile isBlank).reverse.takeWhile isBlank).reverse, ?_, ?_, ?_⟩
  · have hback : trimBlanks text ++
        ((text.dropWhile isBlank).reverse.takeWhile isBlank).reverse =
          text.dropWhile isBlank := by
      unfold trimBlanks
      rw [← List.reverse_append, List.takeWhile_append_dropWhile, List.reverse_reverse]
    rw [List.append_assoc, hback, List.takeWhile_append_dropWhile]
  · exact fun c hmem => List.mem_takeWhile_imp hmem
  · exact fun c hmem => List.mem_takeWhile_imp (List.mem_reverse.1 hmem)

/-- Blanks in front of a text without blanks are dropped. -/
theorem drop_blanks_append {before middle after : List Char}
    (hbefore : ∀ c ∈ before, isBlank c = true) (hne : middle ≠ [])
    (hmiddle : ∀ c ∈ middle, isBlank c = false) :
    (before ++ (middle ++ after)).dropWhile isBlank = middle ++ after := by
  rw [List.dropWhile_append_of_pos hbefore]
  cases middle with
  | nil => exact absurd rfl hne
  | cons c middle =>
      exact List.dropWhile_cons_of_neg (by simp [hmiddle c List.mem_cons_self])

/-- A text without blanks is what is left when the blanks around it are trimmed. -/
theorem trim_blanks_append {before middle after : List Char}
    (hbefore : ∀ c ∈ before, isBlank c = true) (hafter : ∀ c ∈ after, isBlank c = true)
    (hne : middle ≠ []) (hmiddle : ∀ c ∈ middle, isBlank c = false) :
    trimBlanks (before ++ middle ++ after) = middle := by
  unfold trimBlanks
  rw [List.append_assoc, drop_blanks_append hbefore hne hmiddle, List.reverse_append]
  have hback : (after.reverse ++ (middle.reverse ++ [])).dropWhile isBlank =
      middle.reverse ++ [] :=
    drop_blanks_append (fun c hmem => hafter c (List.mem_reverse.1 hmem)) (by simpa using hne)
      (fun c hmem => hmiddle c (List.mem_reverse.1 hmem))
  rw [List.append_nil] at hback
  rw [hback, List.reverse_reverse]

/-- A trimmed text is read as a number exactly when it writes one of 64 bits between blanks. -/
theorem read_trimmed_iff : readInt64? (trimBlanks text) = some n ↔ WritesInt64 text n := by
  rw [read_int64_eq_some_iff, is_int64_iff]
  constructor
  · rintro ⟨hwrites, hlow, hhigh⟩
    obtain ⟨before, after, htext, hbefore, hafter⟩ := trim_blanks_eq text
    exact ⟨before, _, after, htext, hbefore, hafter, hwrites, hlow, hhigh⟩
  · rintro ⟨before, numeral, after, rfl, hbefore, hafter, hwrites, hlow, hhigh⟩
    rw [trim_blanks_append hbefore hafter hwrites.ne_nil hwrites.not_blank]
    exact ⟨hwrites, hlow, hhigh⟩

end CardBrowser.Text
