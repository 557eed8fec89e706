import Mathlib
import CardBrowser.Json.Printer
import CardBrowser.Proofs.Json.Numeral
import CardBrowser.Proofs.Number.Shortest

/-!
# Written floating-point numbers

A finite number is written as a numeral with a point or a power, `text_of_float`, and a
floating-point number is read from that again, `float_of_float`. It need not be the same one,
because the reader rounds more than once. What is read from any numeral is finite,
`is_finite_of_float`.
-/

namespace CardBrowser.Json.Numeral

open CardBrowser.Text

variable {digits : List Char} {numeral : Numeral} {x y : Binary64} {exponent : Int}
  {decimal : Decimal} {word fuel : Nat}

/-! ## Digits that fit in a word -/

/-- A number goes on with the digits after it. -/
def extend (word : Nat) (digits : List Char) : Nat :=
  digits.foldl (fun value digit => 10 * value + (digit.toNat - '0'.toNat)) word

/-- A number does not become less with more digits. -/
theorem le_extend (word : Nat) (digits : List Char) : word ≤ extend word digits := by
  induction digits generalizing word with
  | nil => exact le_rfl
  | cons digit digits ih =>
      calc word ≤ 10 * word + (digit.toNat - '0'.toNat) := by omega
        _ ≤ extend _ digits := ih _

/-- Digits that fit in a word are all read. -/
theorem leading_word_of_le (h : extend word digits ≤ greatestWord) :
    leadingWord word digits = (extend word digits, []) := by
  induction digits generalizing word with
  | nil => rfl
  | cons digit digits ih =>
      have hnext : 10 * word + (digit.toNat - '0'.toNat) ≤ greatestWord :=
        (le_extend _ digits).trans h
      unfold leadingWord
      dsimp only
      rw [if_neg (not_lt.2 hnext)]
      exact ih h

/-- What is read of digits fits in a word. -/
theorem leading_word_le (digits : List Char) (h : word ≤ greatestWord) :
    (leadingWord word digits).1 ≤ greatestWord := by
  induction digits generalizing word with
  | nil => exact h
  | cons digit digits ih =>
      unfold leadingWord
      dsimp only
      split_ifs with hnext
      · exact h
      · exact ih (not_lt.1 hnext)

/-! ## Scaling -/

/-- Division by powers of ten leaves a number, however small. -/
theorem scale_is_some (x : Binary64) (hlow : -616 ≤ exponent) (hhigh : exponent < 0) :
    (scale? (fuel + 2) x exponent).isSome := by
  unfold scale?
  dsimp only
  split_ifs with hone hsign hzero hsign
  · omega
  · rfl
  · rfl
  · omega
  · unfold scale?
    dsimp only
    rw [if_pos (by omega)]
    split_ifs with hsign
    · omega
    · rfl

/-- A product in the range is what scaling leaves. -/
theorem scale_of_product {n : Nat} (hn : n ≤ 308)
    (h : (x.mul (.ofScientific false 1 n)).IsFinite) : (scale? (fuel + 1) x n).isSome := by
  unfold scale?
  dsimp only
  rw [Int.natAbs_natCast, if_pos hn, if_pos (Int.natCast_nonneg n)]
  split
  · rename_i hproduct
    rw [hproduct] at h
    exact absurd h id
  · rfl

/-- A finite number divided by a power of ten is finite. -/
theorem is_finite_div_power (hx : x.IsFinite) {n : Nat} (hn : n ≤ 308) :
    (x.div (.ofScientific false 1 n)).IsFinite := by
  obtain ⟨hpower, hone, -⟩ := Decimal.power_spec (n := n) (by omega)
  exact Binary64.is_finite_div hx hpower hone

/-- What scaling makes of a finite number is finite. -/
theorem scale_is_finite (hx : x.IsFinite) (h : scale? fuel x exponent = some y) : y.IsFinite := by
  induction fuel generalizing x exponent with
  | zero => cases h
  | succ fuel ih =>
      unfold scale? at h
      dsimp only at h
      split_ifs at h with hone hsign hzero hsign
      · obtain ⟨hpower, -⟩ := Decimal.power_spec (n := exponent.natAbs) (by omega)
        rcases Binary64.mul_cases hx hpower with hfinite | ⟨negative, hproduct⟩
        · split at h
          · cases h
          · exact Option.some.inj h ▸ hfinite
        · rw [hproduct] at h
          cases h
      · exact Option.some.inj h ▸ is_finite_div_power hx hone
      · exact Option.some.inj h ▸ hx
      · exact ih (is_finite_div_power hx le_rfl) h

/-! ## Reading floating-point numbers -/

/-- The signed power of ten of a numeral. -/
def powerValue : Option (Bool × List Char) → Int
  | none => 0
  | some (negative, digits) => if negative then -(digitsValue digits : Int) else digitsValue digits

/-- What is read from a numeral is finite. -/
theorem is_finite_of_float (h : numeral.float? = some x) : x.IsFinite := by
  unfold float? at h
  have hzero : 0 ≤ greatestWord := Nat.zero_le _
  have hword := leading_word_le (numeral.fraction.getD []) (leading_word_le numeral.whole hzero)
  generalize leadingWord 0 numeral.whole = whole at h hword
  dsimp only at h
  generalize leadingWord whole.1 (numeral.fraction.getD []) = all at h hword
  have hround := Binary64.is_finite_round_word numeral.negative (Nat.lt_succ_of_le hword)
  split at h
  · exact scale_is_finite hround h
  · rename_i digits _
    by_cases hrange : 2147483647 < digitsValue digits
    · rw [if_pos hrange] at h
      split_ifs at h
      exact Option.some.inj h ▸ Binary64.is_finite_zero _
    · rw [if_neg hrange] at h
      exact scale_is_finite hround h

/-- Digits that fit in a word are rounded together and then scaled by the power. -/
theorem float_of_word
    (hdigits : digitsValue (numeral.whole ++ numeral.fraction.getD []) ≤ greatestWord)
    (hpower : (powerValue numeral.power).natAbs ≤ 2147483647) :
    numeral.float? = scale? 4
      (.roundRatio numeral.negative (digitsValue (numeral.whole ++ numeral.fraction.getD [])) 1)
      (powerValue numeral.power - (numeral.fraction.getD []).length) := by
  have hvalue : digitsValue (numeral.whole ++ numeral.fraction.getD []) =
      extend (extend 0 numeral.whole) (numeral.fraction.getD []) := List.foldl_append
  rw [hvalue] at hdigits ⊢
  have hwhole := leading_word_of_le ((le_extend _ (numeral.fraction.getD [])).trans hdigits)
  have hfraction := leading_word_of_le hdigits
  unfold float?
  rw [hwhole]
  dsimp only
  rw [hfraction]
  dsimp only
  rcases hnumeral : numeral.power with - | ⟨negative, digits⟩
  · simp [powerValue]
  · rw [hnumeral] at hpower
    have hlimit : digitsValue digits ≤ 2147483647 := by
      unfold powerValue at hpower
      dsimp only at hpower
      split_ifs at hpower <;> omega
    dsimp only
    rw [if_neg (not_lt.2 hlimit)]
    unfold powerValue
    simp [sub_eq_add_neg, add_comm]

/-! ## Numerals of decimals -/

/-- The numeral of a decimal without a power. -/
def positional (negative : Bool) (decimal : Decimal) : Numeral :=
  let digits := Nat.toDigits 10 decimal.digits
  if 0 ≤ decimal.exponent then
    ⟨negative, digits ++ List.replicate decimal.exponent.toNat '0', some ['0'], none⟩
  else
    let places := (-decimal.exponent).toNat
    let padded := List.replicate (places + 1 - digits.length) '0' ++ digits
    ⟨negative, padded.take (padded.length - places),
      some (padded.drop (padded.length - places)), none⟩

/-- The numeral of a decimal with one digit before the point and a power. -/
def scientific (negative : Bool) (decimal : Decimal) : Numeral :=
  let digits := Nat.toDigits 10 decimal.digits
  let power := decimal.exponent + digits.length - 1
  ⟨negative, digits.take 1, if digits.length ≤ 1 then none else some (digits.drop 1),
    some (decide (power < 0), Nat.toDigits 10 power.natAbs)⟩

/-- The sign of a number and of a numeral are written alike. -/
theorem sign_text (negative : Bool) : (Binary64.signText negative).toList = signText negative := by
  cases negative <;> rfl

/-- A decimal without a power is written as its numeral. -/
theorem text_positional (negative : Bool) (decimal : Decimal) :
    (positional negative decimal).text =
      signText negative ++ (decimal.positional true).toList := by
  unfold positional Decimal.positional
  dsimp only
  by_cases hsign : 0 ≤ decimal.exponent
  · rw [if_pos hsign, if_pos hsign]
    simp [text, fractionText, powerText]
  · rw [if_neg hsign, if_neg hsign]
    simp [text, fractionText, powerText]

/-- A decimal with a power is written as its numeral. -/
theorem text_scientific (negative : Bool) (decimal : Decimal) :
    (scientific negative decimal).text = signText negative ++ decimal.scientific.toList := by
  unfold scientific Decimal.scientific
  dsimp only
  generalize decimal.exponent + ((Nat.toDigits 10 decimal.digits).length : Int) - 1 = power
  have hpower : power.repr.toList =
      signText (decide (power < 0)) ++ Nat.toDigits 10 power.natAbs := by
    rw [← Int.toString_eq_repr, ← text_of_int]
    simp [text, ofInt, fractionText, powerText]
  have hne : Nat.toDigits 10 decimal.digits ≠ [] := Nat.toDigits_ne_nil
  generalize Nat.toDigits 10 decimal.digits = digits at hne ⊢
  cases digits with
  | nil => exact absurd rfl hne
  | cons digit rest =>
      cases rest with
      | nil => simp [text, fractionText, powerText, hpower]
      | cons next rest => simp [text, fractionText, powerText, hpower]

/-- Zeros are digits. -/
theorem zeros_decimal (count : Nat) : ∀ c ∈ List.replicate count '0', isDigit c = true := by
  intro c hmem
  rw [List.eq_of_mem_replicate hmem]
  rfl

/-- Digits that are filled up with zeros have a digit in front of their places, a single zero if
they are too few. -/
theorem padded_spec (places : Nat) (hhead : digits.head? ≠ some '0') {padded : List Char}
    (hpadded : List.replicate (places + 1 - digits.length) '0' ++ digits = padded) :
    places < padded.length ∧ ((padded.take (padded.length - places)).head? = some '0' →
      padded.take (padded.length - places) = ['0']) := by
  have hlength : padded.length = places + 1 - digits.length + digits.length := by
    rw [← hpadded, List.length_append, List.length_replicate]
  refine ⟨by omega, fun hzero => ?_⟩
  rcases Nat.lt_or_ge places digits.length with hlong | hshort
  · have hnone : places + 1 - digits.length = 0 := by omega
    rw [hnone, List.replicate_zero, List.nil_append] at hpadded
    subst hpadded
    rw [List.head?_take, if_neg (by omega)] at hzero
    exact absurd hzero hhead
  · obtain ⟨count, hcount⟩ : ∃ count, places + 1 - digits.length = count + 1 :=
      ⟨places - digits.length, by omega⟩
    have hone : padded.length - places = 1 := by omega
    rw [hone, ← hpadded, hcount, List.replicate_succ, List.cons_append, List.take_succ_cons,
      List.take_zero]

/-- The numeral of a decimal without a power is made of digits. -/
theorem well_formed_positional (negative : Bool) (h : 0 < decimal.digits) :
    (positional negative decimal).WellFormed := by
  have hrun := is_run_natural decimal.digits
  have hhead := head_of_natural h
  unfold positional
  dsimp only
  generalize Nat.toDigits 10 decimal.digits = digits at hrun hhead
  by_cases hsign : 0 ≤ decimal.exponent
  · rw [if_pos hsign]
    refine ⟨⟨by simp [hrun.ne_nil], ?_⟩, ?_, ?_, nofun⟩
    · exact List.forall_mem_append.2 ⟨hrun.decimal, zeros_decimal _⟩
    · intro hzero
      rw [List.head?_append_of_ne_nil _ hrun.ne_nil] at hzero
      exact absurd hzero hhead
    · rintro digits ⟨⟩
      exact ⟨List.cons_ne_nil _ _, zeros_decimal 1⟩
  · rw [if_neg hsign]
    have hplaces : 0 < (-decimal.exponent).toNat := by omega
    generalize (-decimal.exponent).toNat = places at hplaces ⊢
    have hdecimal := List.forall_mem_append.2
      ⟨zeros_decimal (places + 1 - digits.length), hrun.decimal⟩
    generalize hpadded : List.replicate (places + 1 - digits.length) '0' ++ digits = padded at *
    obtain ⟨hlength, hleading⟩ := padded_spec places hhead hpadded
    refine ⟨⟨?_, fun c hmem => hdecimal c (List.mem_of_mem_take hmem)⟩, hleading, ?_, nofun⟩
    · rw [← List.length_pos_iff_ne_nil, List.length_take]
      omega
    · rintro digits ⟨⟩
      refine ⟨?_, fun c hmem => hdecimal c (List.mem_of_mem_drop hmem)⟩
      rw [← List.length_pos_iff_ne_nil, List.length_drop]
      omega

/-- The numeral of a decimal with a power is made of digits. -/
theorem well_formed_scientific (negative : Bool) (h : 0 < decimal.digits) :
    (scientific negative decimal).WellFormed := by
  have hrun := is_run_natural decimal.digits
  have hhead := head_of_natural h
  unfold scientific
  dsimp only
  generalize decimal.exponent + ((Nat.toDigits 10 decimal.digits).length : Int) - 1 = power
  generalize Nat.toDigits 10 decimal.digits = digits at hrun hhead
  refine ⟨⟨?_, fun c hmem => hrun.decimal c (List.mem_of_mem_take hmem)⟩, ?_, ?_, ?_⟩
  · rw [← List.length_pos_iff_ne_nil, List.length_take]
    have hlength := List.length_pos_of_ne_nil hrun.ne_nil
    omega
  · intro hzero
    rw [List.head?_take, if_neg Nat.one_ne_zero] at hzero
    exact absurd hzero hhead
  · intro fraction hfraction
    split_ifs at hfraction with hlength
    obtain rfl := Option.some.inj hfraction
    refine ⟨?_, fun c hmem => hrun.decimal c (List.mem_of_mem_drop hmem)⟩
    rw [← List.length_pos_iff_ne_nil, List.length_drop]
    omega
  · rintro sign digits ⟨⟩
    exact is_run_natural _

/-! ## Reading decimals -/

/-- A decimal with places after the point is read as its digits, scaled by its power of ten. -/
theorem float_positional_of_neg (negative : Bool) (hword : decimal.digits ≤ greatestWord)
    (hsign : decimal.exponent < 0) :
    (positional negative decimal).float? =
      scale? 4 (.roundRatio negative decimal.digits 1) decimal.exponent := by
  unfold positional
  dsimp only
  rw [if_neg (not_le.2 hsign)]
  have hplaces : ((-decimal.exponent).toNat : Int) = -decimal.exponent := by omega
  generalize (-decimal.exponent).toNat = places at hplaces ⊢
  generalize hpadded : List.replicate (places + 1 - (Nat.toDigits 10 decimal.digits).length) '0' ++
    Nat.toDigits 10 decimal.digits = padded
  have hlength : places ≤ padded.length := by
    rw [← hpadded, List.length_append, List.length_replicate]
    omega
  have hvalue : digitsValue padded = decimal.digits := by
    rw [← hpadded, digits_value_padded, digits_value_natural]
  rw [float_of_word]
  · dsimp only [Option.getD_some, powerValue]
    rw [List.take_append_drop, hvalue, List.length_drop]
    congr 1
    omega
  · dsimp only [Option.getD_some]
    rw [List.take_append_drop, hvalue]
    exact hword
  · exact Nat.zero_le _

/-- A whole decimal of at most sixteen digits is read with a zero after the point, which counts as a
digit. -/
theorem float_positional_of_nonneg (negative : Bool) (hsign : 0 ≤ decimal.exponent)
    (hpoint : (decimal.length : Int) + decimal.exponent ≤ 16) :
    ∃ word, (positional negative decimal).float? = scale? 4 (.roundRatio negative word 1) (-1) := by
  unfold positional
  unfold Decimal.length at hpoint
  dsimp only
  rw [if_pos hsign]
  have hdecimal := List.forall_mem_append.2 ⟨List.forall_mem_append.2
    ⟨digits_of_natural decimal.digits, zeros_decimal decimal.exponent.toNat⟩, zeros_decimal 1⟩
  have hless := digits_value_lt hdecimal
  refine ⟨_, float_of_word (hless.le.trans ?_) (Nat.zero_le _)⟩
  have hlength : ((Nat.toDigits 10 decimal.digits ++ List.replicate decimal.exponent.toNat '0') ++
      List.replicate 1 '0').length ≤ 17 := by
    rw [List.length_append, List.length_append, List.length_replicate, List.length_replicate]
    omega
  calc 10 ^ _ ≤ 10 ^ 17 := Nat.pow_le_pow_right (by decide) hlength
    _ ≤ greatestWord := by decide

/-- A power is read from its sign and digits. -/
theorem power_value_of_int (power : Int) :
    powerValue (some (decide (power < 0), Nat.toDigits 10 power.natAbs)) = power := by
  unfold powerValue
  dsimp only
  rw [digits_value_natural]
  by_cases hsign : power < 0
  · rw [if_pos (decide_eq_true hsign)]
    omega
  · rw [decide_eq_false hsign, if_neg Bool.false_ne_true]
    omega

/-- A decimal with a power is read as its digits, scaled by its power of ten. -/
theorem float_scientific (negative : Bool) (hword : decimal.digits ≤ greatestWord)
    (hpower : (decimal.exponent + decimal.length - 1).natAbs ≤ 2147483647) :
    (scientific negative decimal).float? =
      scale? 4 (.roundRatio negative decimal.digits 1) decimal.exponent := by
  unfold scientific
  unfold Decimal.length at hpower
  dsimp only
  have hlength : 0 < (Nat.toDigits 10 decimal.digits).length := Nat.length_toDigits_pos
  have hvalue := digits_value_natural decimal.digits
  generalize Nat.toDigits 10 decimal.digits = digits at *
  have hparts :
      digits.take 1 ++ (if digits.length ≤ 1 then none else some (digits.drop 1)).getD [] = digits ∧
      (((if digits.length ≤ 1 then none else some (digits.drop 1)).getD []).length : Int) =
        digits.length - 1 := by
    split_ifs with hone
    · rw [Option.getD_none, List.append_nil, List.take_of_length_le hone]
      exact ⟨rfl, by simp; omega⟩
    · rw [Option.getD_some, List.take_append_drop, List.length_drop]
      exact ⟨rfl, by omega⟩
  rw [float_of_word]
  · dsimp only
    rw [hparts.1, hvalue, power_value_of_int, hparts.2]
    congr 1
    omega
  · dsimp only
    rw [hparts.1, hvalue]
    exact hword
  · dsimp only
    rw [power_value_of_int]
    exact hpower

/-! ## Numerals of floating-point numbers -/

/-- The numeral that a finite number is written as. -/
def ofFloat : Binary64 → Numeral
  | .finite negative (m + 1) exponent =>
    let decimal := Decimal.shortest (m + 1) exponent
    let point := (decimal.length : Int) + decimal.exponent
    if -5 < point ∧ point ≤ 16 then positional negative decimal else scientific negative decimal
  | x => ⟨x.isNegative, ['0'], some ['0'], none⟩

/-- A finite number is written as its numeral. -/
theorem text_of_float (hx : x.IsFinite) : (ofFloat x).text = x.jsonText.toList := by
  match x, hx with
  | .finite negative 0 _, _ =>
    rw [Binary64.jsonText, String.toList_append, sign_text]
    rfl
  | .finite negative (m + 1) exponent, _ =>
    unfold ofFloat Binary64.jsonText
    dsimp only
    rw [String.toList_append, sign_text]
    split_ifs with hpoint
    · exact text_positional negative _
    · exact text_scientific negative _

/-- The numeral of a finite number is made of digits. -/
theorem well_formed_of_float (hx : x.IsFinite) : (ofFloat x).WellFormed := by
  match x, hx with
  | .finite negative 0 _, _ =>
    refine ⟨⟨List.cons_ne_nil _ _, zeros_decimal 1⟩, fun _ => rfl, ?_, nofun⟩
    rintro digits ⟨⟩
    exact ⟨List.cons_ne_nil _ _, zeros_decimal 1⟩
  | .finite negative (m + 1) exponent, hx =>
    obtain ⟨hpos, -⟩ := Decimal.shortest_spec m.succ_pos hx
    unfold ofFloat
    dsimp only
    split_ifs with hpoint
    · exact well_formed_positional negative hpos
    · exact well_formed_scientific negative hpos

/-- The numeral of a floating-point number has no whole number for its value. -/
theorem integer_of_float (x : Binary64) : (ofFloat x).integer? = none := by
  unfold integer?
  refine if_pos ?_
  unfold ofFloat
  split
  · dsimp only
    split_ifs with hpoint
    · unfold positional
      dsimp only
      split_ifs <;> rfl
    · exact Bool.or_true _
  · rfl

/-- A floating-point number is read from the numeral of a finite number. -/
theorem float_of_float (hx : x.IsFinite) : (ofFloat x).float?.isSome := by
  match x, hx with
  | .finite negative 0 _, _ =>
    change (Numeral.mk negative ['0'] (some ['0']) none).float?.isSome
    cases negative <;> decide +kernel
  | .finite negative (m + 1) exponent, hx =>
    have hm : 0 < m + 1 := m.succ_pos
    obtain ⟨-, hdigits, hleast, -⟩ := Decimal.shortest_spec hm hx
    have hgreatest := Decimal.shortest_exponent_lt hm hx
    have hword : (Decimal.shortest (m + 1) exponent).digits ≤ greatestWord :=
      hdigits.trans (by decide)
    have hlength : (Decimal.shortest (m + 1) exponent).length ≤ 18 :=
      (Nat.length_toDigits_le_iff (by decide) (by decide)).2 (hdigits.trans_lt (by decide))
    unfold ofFloat
    dsimp only
    rcases lt_or_ge (Decimal.shortest (m + 1) exponent).exponent 0 with hsign | hsign
    · have hscaled : (scale? 4 (.roundRatio negative (Decimal.shortest (m + 1) exponent).digits 1)
          (Decimal.shortest (m + 1) exponent).exponent).isSome :=
        scale_is_some _ (by omega) hsign
      split_ifs with hpoint
      · rw [float_positional_of_neg negative hword hsign]
        exact hscaled
      · rw [float_scientific negative hword (by omega)]
        exact hscaled
    · split_ifs with hpoint
      · obtain ⟨word, hfloat⟩ := float_positional_of_nonneg negative hsign hpoint.2
        rw [hfloat]
        exact scale_is_some _ (by decide) (by decide)
      · obtain ⟨n, hn⟩ := Int.eq_ofNat_of_zero_le hsign
        rw [float_scientific negative hword (by omega), hn]
        exact scale_of_product (by omega) (Decimal.shortest_mul negative hm hx hn)

end CardBrowser.Json.Numeral
