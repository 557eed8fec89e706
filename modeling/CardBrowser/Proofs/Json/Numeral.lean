import Mathlib
import CardBrowser.Json.Interpretation
import CardBrowser.Proofs.Text.Numerals

/-!
# Written numbers

A numeral is read from its text where no character follows that a number could go on with:
`read_numeral_text`. A whole number of 64 bits is written as a numeral that has it for its value,
`integer_of_int`.
-/

namespace CardBrowser.Json

open CardBrowser.Text

variable {digits rest : List Char} {numeral : Numeral}

/-! ## Texts of numerals -/

/-- A run of one or more digits. -/
structure IsRun (digits : List Char) : Prop where
  ne_nil : digits ≠ []
  decimal : ∀ c ∈ digits, isDigit c = true

/-- Whether a number can end before some characters. -/
def endsNumber (rest : List Char) : Bool :=
  rest.head?.all fun c => !isDigit c && c != '.' && c != 'e' && c != 'E'

namespace Numeral

/-- A minus sign where one is due. -/
def signText (negative : Bool) : List Char :=
  if negative then ['-'] else []

/-- The digits after the point, and the point before them. -/
def fractionText : Option (List Char) → List Char
  | none => []
  | some digits => '.' :: digits

/-- The power of ten after its letter. -/
def powerText : Option (Bool × List Char) → List Char
  | none => []
  | some (negative, digits) => 'e' :: (signText negative ++ digits)

/-- The text of a numeral. -/
def text (numeral : Numeral) : List Char :=
  signText numeral.negative ++
    (numeral.whole ++ (fractionText numeral.fraction ++ powerText numeral.power))

/-- A numeral that is made of digits, without a zero in front of others. -/
structure WellFormed (numeral : Numeral) : Prop where
  whole : IsRun numeral.whole
  leading : numeral.whole.head? = some '0' → numeral.whole = ['0']
  fraction : ∀ digits, numeral.fraction = some digits → IsRun digits
  power : ∀ negative digits, numeral.power = some (negative, digits) → IsRun digits

end Numeral

/-! ## Reading -/

/-- Digits are read up to a character that is none. -/
theorem read_digits_append (h : IsRun digits)
    (hrest : (rest.head?.all fun c => !isDigit c) = true) :
    readDigits? (digits ++ rest) = some (digits, rest) := by
  have htake : rest.takeWhile isDigit = [] ∧ rest.dropWhile isDigit = rest := by
    cases rest with
    | nil => exact ⟨rfl, rfl⟩
    | cons c rest =>
        have hc : isDigit c = false := by simpa using hrest
        exact ⟨List.takeWhile_cons_of_neg (by simp [hc]), List.dropWhile_cons_of_neg (by simp [hc])⟩
  unfold readDigits?
  rw [List.takeWhile_append_of_pos h.decimal, List.dropWhile_append_of_pos h.decimal, htake.1,
    htake.2, List.append_nil]
  exact if_neg (by simpa using h.ne_nil)

/-- A run of digits begins with a digit. -/
theorem IsRun.exists_cons (h : IsRun digits) :
    ∃ c later, digits = c :: later ∧ isDigit c = true := by
  cases digits with
  | nil => exact absurd rfl h.ne_nil
  | cons c later => exact ⟨c, later, rfl, h.decimal c List.mem_cons_self⟩

/-- No digit is another character. -/
theorem ne_of_is_digit {c d : Char} (hc : isDigit c = true) (hd : isDigit d = false) : c ≠ d := by
  rintro rfl
  rw [hc] at hd
  cases hd

/-- Where a number can end there is no digit. -/
theorem not_digit_of_ends (h : endsNumber rest = true) :
    (rest.head?.all fun c => !isDigit c) = true := by
  unfold endsNumber at h
  cases hrest : rest.head? with
  | none => rfl
  | some c =>
      rw [hrest] at h
      simp only [Option.all_some, Bool.and_eq_true] at h ⊢
      exact h.1.1.1

/-- A power of ten is read from its text. -/
theorem read_power_text {power : Option (Bool × List Char)}
    (h : ∀ negative digits, power = some (negative, digits) → IsRun digits)
    (hrest : endsNumber rest = true) :
    readPower? (Numeral.powerText power ++ rest) = some (power, rest) := by
  have hend := not_digit_of_ends hrest
  match power with
  | none =>
      cases rest with
      | nil => rfl
      | cons c rest =>
          simp only [endsNumber, List.head?_cons, Option.all_some, Bool.and_eq_true,
            bne_iff_ne] at hrest
          exact if_neg (not_or.2 ⟨hrest.1.2, hrest.2⟩)
  | some (true, digits) =>
      simp [Numeral.powerText, Numeral.signText, readPower?,
        read_digits_append (h true digits rfl) hend]
  | some (false, digits) =>
      have hread := read_digits_append (h false digits rfl) hend
      obtain ⟨c, later, rfl, hc⟩ := (h false digits rfl).exists_cons
      have hminus : c ≠ '-' := ne_of_is_digit hc (by decide)
      have hplus : c ≠ '+' := ne_of_is_digit hc (by decide)
      simp only [Numeral.powerText, Numeral.signText, List.cons_append, Bool.false_eq_true,
        if_false, List.nil_append] at hread ⊢
      unfold readPower?
      dsimp only
      rw [if_pos (Or.inl rfl)]
      split
      · rename_i heq
        exact absurd (List.cons.inj heq).1 hminus
      · rename_i heq
        exact absurd (List.cons.inj heq).1 hplus
      · rw [hread]
        rfl

/-- The digits before the point are read up to what follows them. -/
theorem read_whole_append (h : IsRun digits) (hleading : digits.head? = some '0' → digits = ['0'])
    (hrest : (rest.head?.all fun c => !isDigit c) = true) :
    readWhole? (digits ++ rest) = some (digits, rest) := by
  obtain ⟨c, later, rfl, -⟩ := h.exists_cons
  by_cases hc : c = '0'
  · subst hc
    obtain rfl : later = [] := (List.cons.inj (hleading rfl)).2
    have hnone : rest.head?.any isDigit = false := by
      cases rest with
      | nil => rfl
      | cons c rest => simpa using hrest
    simp [readWhole?, hnone]
  · have hread := read_digits_append h hrest
    unfold readWhole?
    split
    · rename_i heq
      exact absurd (List.cons.inj heq).1 hc
    · exact hread

/-- What follows the digits before the point does not begin with a digit. -/
theorem not_digit_of_tail (fraction : Option (List Char)) (power : Option (Bool × List Char))
    (hrest : endsNumber rest = true) :
    ((Numeral.fractionText fraction ++ (Numeral.powerText power ++ rest)).head?.all
      fun c => !isDigit c) = true := by
  match fraction, power with
  | some digits, _ => rfl
  | none, some (negative, digits) => rfl
  | none, none => exact not_digit_of_ends hrest

/-- A number without its sign is read from its text. -/
theorem read_unsigned_text (h : numeral.WellFormed) (hrest : endsNumber rest = true) :
    readUnsigned? numeral.negative (numeral.whole ++ (Numeral.fractionText numeral.fraction ++
      (Numeral.powerText numeral.power ++ rest))) = some (numeral, rest) := by
  obtain ⟨negative, whole, fraction, power⟩ := numeral
  have hpower := read_power_text h.power hrest
  have hwhole := read_whole_append h.whole h.leading (not_digit_of_tail fraction power hrest)
  unfold readUnsigned?
  dsimp only at hwhole hpower ⊢
  rw [hwhole]
  cases fraction with
  | some digits =>
      have hdigits := read_digits_append (h.fraction digits rfl)
        (not_digit_of_tail none power hrest)
      rw [Numeral.fractionText, List.nil_append] at hdigits
      simp [Numeral.fractionText, hdigits, hpower]
  | none =>
      rw [Numeral.fractionText, List.nil_append]
      have hpoint : ∀ later, Numeral.powerText power ++ rest ≠ '.' :: later := by
        match power with
        | some (negative, digits) => exact fun later h => absurd (List.cons.inj h).1 (by decide)
        | none =>
            rintro later rfl
            cases hrest
      simp only [Option.bind_eq_bind, Option.bind_some, hpower]
      rfl

/-- A numeral is read from its text. -/
theorem read_numeral_text (h : numeral.WellFormed) (hrest : endsNumber rest = true) :
    readNumeral? (numeral.text ++ rest) = some (numeral, rest) := by
  have hread := read_unsigned_text h hrest
  unfold Numeral.text
  rw [List.append_assoc, List.append_assoc, List.append_assoc]
  cases hsign : numeral.negative with
  | true =>
      rw [hsign] at hread
      exact hread
  | false =>
      rw [hsign] at hread
      obtain ⟨c, later, hwhole, hc⟩ := h.whole.exists_cons
      rw [hwhole] at hread ⊢
      rw [Numeral.signText, if_neg Bool.false_ne_true, List.nil_append]
      unfold readNumeral?
      split
      · rename_i heq
        exact absurd (List.cons.inj heq).1 (ne_of_is_digit hc (by decide))
      · exact hread

/-! ## Whole numbers -/

/-- Whether a whole number fits in a signed or in an unsigned word of 64 bits. -/
def FitsWord (n : Int) : Prop :=
  -2 ^ 63 ≤ n ∧ n < 2 ^ 64

namespace Numeral

/-- The numeral of a whole number. -/
def ofInt (n : Int) : Numeral :=
  ⟨decide (n < 0), Nat.toDigits 10 n.natAbs, none, none⟩

/-- The digits of a natural number are a run. -/
theorem is_run_natural (n : Nat) : IsRun (Nat.toDigits 10 n) :=
  ⟨Nat.toDigits_ne_nil, digits_of_natural n⟩

/-- The digits of a natural number have no zero in front of others. -/
theorem leading_natural (n : Nat) (h : (Nat.toDigits 10 n).head? = some '0') :
    Nat.toDigits 10 n = ['0'] := by
  rcases Nat.eq_zero_or_pos n with rfl | hn
  · rfl
  · exact absurd h (head_of_natural hn)

/-- A whole number is written as its numeral. -/
theorem text_of_int (n : Int) : (ofInt n).text = (toString n).toList := by
  unfold text ofInt
  dsimp only
  rw [Int.toString_eq_repr, Int.repr_eq_if, fractionText, powerText, List.append_nil,
    List.append_nil]
  by_cases hsign : 0 ≤ n
  · have hsize : n.natAbs = n.toNat := by omega
    rw [decide_eq_false (not_lt.2 hsign), if_pos hsign, Nat.toList_repr, hsize]
    rfl
  · have hsize : n.natAbs = (-n).toNat := by omega
    rw [decide_eq_true (not_le.1 hsign), if_neg hsign, String.toList_append, Nat.toList_repr, hsize]
    rfl

/-- The numeral of a whole number is made of digits. -/
theorem well_formed_of_int (n : Int) : (ofInt n).WellFormed where
  whole := is_run_natural n.natAbs
  leading := leading_natural n.natAbs
  fraction := nofun
  power := nofun

/-- The numeral of a whole number has it for its value if it fits. -/
theorem integer_of_int {n : Int} (h : FitsWord n) : (ofInt n).integer? = some n := by
  obtain ⟨hlow, hhigh⟩ := h
  unfold integer? ofInt greatestWord
  dsimp only
  rw [digits_value_natural]
  simp only [Option.isSome_none, Bool.or_self, Bool.false_eq_true, if_false]
  by_cases hsign : n < 0
  · rw [decide_eq_true hsign, if_pos rfl, if_pos (by omega), Option.some.injEq]
    omega
  · rw [decide_eq_false hsign, if_neg Bool.false_ne_true, if_pos (by omega), Option.some.injEq]
    omega

/-- The whole number that a numeral has for its value fits. -/
theorem fits_of_integer {n : Int} (h : numeral.integer? = some n) : FitsWord n := by
  unfold integer? greatestWord at h
  dsimp only at h
  unfold FitsWord
  split_ifs at h with hpoint hsign hrange hrange
  · obtain rfl := Option.some.inj h
    omega
  · obtain rfl := Option.some.inj h
    omega

end Numeral

end CardBrowser.Json
