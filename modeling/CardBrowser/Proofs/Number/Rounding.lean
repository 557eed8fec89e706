import Mathlib
import CardBrowser.Number.Binary64

/-!
# Whole numbers as floating-point numbers

The number of the format that is nearest to a natural number is `significant`, the natural number
with all but 53 of its bits rounded away: `to_rat_of_nat`. Rounding keeps the order of numbers,
`significant_mono`, and changes nothing up to `2^53`, `significant_of_le`.
-/

namespace CardBrowser.Binary64

variable {m n d : Nat}

/-! ## Rounded quotients -/

/-- A multiple of the divisor has an exact quotient. -/
theorem nearest_mul (hd : 0 < d) (q : Nat) : nearest (q * d) d = q := by
  unfold nearest
  rw [Nat.mul_div_cancel q hd, Nat.mul_mod_left]
  exact if_pos hd

/-- A rounded quotient is the quotient or the number after it. -/
theorem nearest_bounds (n d : Nat) : n / d ≤ nearest n d ∧ nearest n d ≤ n / d + 1 := by
  unfold nearest
  dsimp only
  split_ifs <;> omega

/-- Rounded quotients keep the order of dividends. -/
theorem nearest_mono (h : m ≤ n) : nearest m d ≤ nearest n d := by
  obtain ⟨-, hm⟩ := nearest_bounds m d
  obtain ⟨hn, -⟩ := nearest_bounds n d
  rcases (Nat.div_le_div_right h : m / d ≤ n / d).lt_or_eq with hlt | heq
  · omega
  · -- With the same quotient the remainders are in the order of the dividends.
    have hremainder : m % d ≤ n % d := by
      have hm := Nat.div_add_mod m d
      have hn := Nat.div_add_mod n d
      rw [heq] at hm
      omega
    unfold nearest
    rw [heq]
    dsimp only
    split_ifs <;> omega

/-! ## Significant bits -/

/-- How many of the last bits of a number are rounded away. -/
def spareBits (n : Nat) : Nat :=
  n.log2 - 52

/-- A number of which all but 53 bits are rounded away, a half going to the even neighbour. -/
def significant (n : Nat) : Nat :=
  nearest n (2 ^ spareBits n) * 2 ^ spareBits n

/-- A number that has no more than 53 bits is not rounded. -/
theorem significant_of_lt (h : n < 2 ^ 53) : significant n = n := by
  have hspare : spareBits n = 0 := by
    unfold spareBits
    rcases Nat.eq_zero_or_pos n with rfl | hpos
    · rfl
    · have hlog := (Nat.log2_lt hpos.ne').2 h
      omega
  have hquotient := nearest_mul Nat.one_pos n
  rw [Nat.mul_one] at hquotient
  unfold significant
  rw [hspare, Nat.pow_zero, Nat.mul_one, hquotient]

/-- A number of more than 53 bits is rounded between the powers of two around it. -/
theorem significant_bounds (h : 52 ≤ n.log2) :
    2 ^ n.log2 ≤ significant n ∧ significant n ≤ 2 ^ (n.log2 + 1) := by
  have hne : n ≠ 0 := by
    rintro rfl
    simp at h
  have hunit : 0 < 2 ^ spareBits n := Nat.two_pow_pos _
  have hlow : 2 ^ 52 * 2 ^ spareBits n = 2 ^ n.log2 := by
    rw [← Nat.pow_add, spareBits]
    congr 1
    omega
  have hhigh : 2 ^ 53 * 2 ^ spareBits n = 2 ^ (n.log2 + 1) := by
    rw [← Nat.pow_add, spareBits]
    congr 1
    omega
  -- Both powers of two are multiples of the unit, so they are not rounded.
  constructor
  · rw [← hlow]
    refine Nat.mul_le_mul_right _ ?_
    rw [← nearest_mul hunit (2 ^ 52), hlow]
    exact nearest_mono (Nat.log2_self_le hne)
  · rw [← hhigh]
    refine Nat.mul_le_mul_right _ ?_
    rw [← nearest_mul hunit (2 ^ 53), hhigh]
    exact nearest_mono Nat.lt_log2_self.le

/-- Rounding keeps the order of numbers. -/
theorem significant_mono : Monotone significant := by
  intro m n h
  have hlog : m.log2 ≤ n.log2 := by
    rw [Nat.log2_eq_log_two, Nat.log2_eq_log_two]
    exact Nat.log_mono_right h
  rcases Nat.lt_or_ge m (2 ^ 53) with hm | hm
  · rw [significant_of_lt hm]
    rcases Nat.lt_or_ge n (2 ^ 53) with hn | hn
    · rw [significant_of_lt hn]
      exact h
    · have hbits : 53 ≤ n.log2 := (Nat.le_log2 (by omega)).2 hn
      calc m ≤ 2 ^ 53 := hm.le
        _ ≤ 2 ^ n.log2 := Nat.pow_le_pow_right Nat.two_pos hbits
        _ ≤ significant n := (significant_bounds (by omega)).1
  · have hbits : 53 ≤ m.log2 := (Nat.le_log2 (by omega)).2 hm
    rcases hlog.lt_or_eq with hlt | heq
    · calc significant m ≤ 2 ^ (m.log2 + 1) := (significant_bounds (by omega)).2
        _ ≤ 2 ^ n.log2 := Nat.pow_le_pow_right Nat.two_pos hlt
        _ ≤ significant n := (significant_bounds (by omega)).1
    · have hspare : spareBits m = spareBits n := congrArg (· - 52) heq
      unfold significant
      rw [hspare]
      exact Nat.mul_le_mul_right _ (nearest_mono h)

/-- A number up to `2^53` is not rounded. -/
theorem significant_of_le (h : n ≤ 2 ^ 53) : significant n = n := by
  rcases h.lt_or_eq with hlt | rfl
  · exact significant_of_lt hlt
  · decide +kernel

/-! ## Conversion -/

/-- A ratio multiplied by a power that is not negative. -/
theorem scale_ratio_pos (base numerator denominator exponent : Nat) :
    scaleRatio base numerator denominator exponent =
      (numerator * base ^ exponent, denominator) := by
  unfold scaleRatio
  rw [if_pos (Int.natCast_nonneg exponent), Int.toNat_natCast]
  rfl

/-- A ratio multiplied by a power that is not positive. -/
theorem scale_ratio_neg (base numerator denominator exponent : Nat) :
    scaleRatio base numerator denominator (-exponent) =
      (numerator, denominator * base ^ exponent) := by
  rcases Nat.eq_zero_or_pos exponent with rfl | hpos
  · simp [scaleRatio]
  · unfold scaleRatio
    rw [if_neg (by omega), Int.neg_neg, Int.toNat_natCast]
    rfl

/-- The exponent of a natural number leaves it 53 bits. -/
theorem exponent_of_nat (hn : n ≠ 0) : exponentOf n 1 = (n.log2 : Int) - 52 := by
  have hlow : 2 ^ n.log2 ≤ n := Nat.log2_self_le hn
  have hlimit : significandLimit = 2 ^ 53 := rfl
  -- The first guess is one too small: the number would need one bit more.
  have hguess : ∀ ratio, scaleRatio 2 n 1 (-((n.log2 : Int) - 53)) = ratio →
      ¬ ratio.1 < significandLimit * ratio.2 := by
    rintro ratio rfl
    rcases Nat.le_total n.log2 53 with hle | hle
    · have hexponent : -((n.log2 : Int) - 53) = ((53 - n.log2 : Nat) : Int) := by omega
      rw [hexponent, scale_ratio_pos, hlimit, Nat.mul_one, not_lt]
      calc 2 ^ 53 = 2 ^ n.log2 * 2 ^ (53 - n.log2) := by rw [← Nat.pow_add]; congr 1; omega
        _ ≤ n * 2 ^ (53 - n.log2) := Nat.mul_le_mul_right _ hlow
    · have hexponent : (n.log2 : Int) - 53 = ((n.log2 - 53 : Nat) : Int) := by omega
      rw [hexponent, scale_ratio_neg, hlimit, Nat.one_mul, not_lt, ← Nat.pow_add]
      exact (Nat.pow_le_pow_right Nat.two_pos (by omega)).trans hlow
  have hlog : Nat.log2 1 = 0 := by decide
  unfold exponentOf leastExponent
  rw [hlog]
  dsimp only
  rw [Nat.cast_zero, Int.sub_zero, if_neg (hguess _ rfl)]
  omega

/-- The value of a number whose exponent is not negative. -/
theorem to_rat_of_pos (significand exponent : Nat) :
    (finite false significand exponent).toRat? =
      some ((significand * 2 ^ exponent : Nat) : Rat) := by
  simp only [toRat?, magnitude, scale_ratio_pos]
  simp [Rat.mkRat_one]

/-- The value of a number whose exponent is not positive and that is whole. -/
theorem to_rat_of_neg (n exponent : Nat) :
    (finite false (n * 2 ^ exponent) (-exponent)).toRat? = some (n : Rat) := by
  have hpower : (2 : Rat) ^ exponent ≠ 0 := by positivity
  simp only [toRat?, magnitude, scale_ratio_neg]
  rw [Rat.mkRat_eq_div]
  simp [hpower]

/-- A ratio is rounded to the significand that it has at its exponent, unless rounding up makes one
bit more. -/
theorem round_ratio_eq {numerator denominator : Nat} {exponent : Int} (hn : n ≠ 0)
    (hexponent : exponentOf n d = exponent)
    (hscaled : scaleRatio 2 n d (-exponent) = (numerator, denominator))
    (hrange : exponent < greatestExponent) :
    roundRatio false n d =
      if nearest numerator denominator = significandLimit then
        finite false (significandLimit / 2) (exponent + 1)
      else finite false (nearest numerator denominator) exponent := by
  unfold roundRatio
  rw [if_neg hn, hexponent]
  dsimp only
  rw [hscaled]
  dsimp only
  by_cases hcarry : nearest numerator denominator = significandLimit
  · rw [if_pos hcarry, if_pos hcarry]
    exact if_neg (not_lt.2 (Int.add_one_le_of_lt hrange))
  · rw [if_neg hcarry, if_neg hcarry]
    exact if_neg (not_lt.2 hrange.le)

/-- A short number is filled up with zeros to 53 bits. -/
theorem to_rat_of_short (hpos : 0 < n) (hlt : n < 2 ^ 53) :
    (roundRatio false n 1).toRat? = some (significant n : Rat) := by
  have hlimit : significandLimit = 2 ^ 53 := rfl
  have hgreatest : greatestExponent = 971 := rfl
  have hshort : n.log2 < 53 := (Nat.log2_lt hpos.ne').2 hlt
  have hexponent : exponentOf n 1 = -((52 - n.log2 : Nat) : Int) := by
    rw [exponent_of_nat hpos.ne']
    omega
  have hquotient := nearest_mul Nat.one_pos (n * 2 ^ (52 - n.log2))
  rw [Nat.mul_one] at hquotient
  have hbits : n * 2 ^ (52 - n.log2) < 2 ^ 53 := by
    calc n * 2 ^ (52 - n.log2) < 2 ^ (n.log2 + 1) * 2 ^ (52 - n.log2) :=
          Nat.mul_lt_mul_of_pos_right Nat.lt_log2_self (Nat.two_pow_pos _)
      _ = 2 ^ 53 := by rw [← Nat.pow_add]; congr 1; omega
  rw [round_ratio_eq hpos.ne' hexponent (by rw [Int.neg_neg, scale_ratio_pos]) (by omega),
    hquotient, if_neg (by rw [hlimit]; exact hbits.ne), to_rat_of_neg, significant_of_lt hlt]

/-- The spare bits of a long number are dropped, and a bit is carried if that makes 54 of them. -/
theorem to_rat_of_long (hge : 2 ^ 53 ≤ n) (h : n < 2 ^ 64) :
    (roundRatio false n 1).toRat? = some (significant n : Rat) := by
  have hpos : n ≠ 0 := (Nat.two_pow_pos 53 |>.trans_le hge).ne'
  have hlimit : significandLimit = 2 ^ 53 := rfl
  have hgreatest : greatestExponent = 971 := rfl
  have hlog : n.log2 < 64 := (Nat.log2_lt hpos).2 h
  have hlong : 53 ≤ n.log2 := (Nat.le_log2 hpos).2 hge
  have hexponent : exponentOf n 1 = (spareBits n : Int) := by
    rw [exponent_of_nat hpos]
    unfold spareBits
    omega
  have hspare : spareBits n < 12 := by
    unfold spareBits
    omega
  rw [round_ratio_eq hpos hexponent (by rw [scale_ratio_neg, Nat.one_mul]) (by omega)]
  unfold significant
  split_ifs with hcarry
  · rw [hcarry, hlimit, ← Nat.cast_succ, to_rat_of_pos, Nat.pow_succ _ (spareBits n)]
    congr 2
    omega
  · exact to_rat_of_pos _ _

/-- The number nearest to a natural number below `2^64` is the natural number without its spare
bits. -/
theorem to_rat_of_nat (h : n < 2 ^ 64) : (ofInt n).toRat? = some (significant n : Rat) := by
  rcases Nat.eq_zero_or_pos n with rfl | hpos
  · decide +kernel
  have hround : ofInt n = roundRatio false n 1 := by
    unfold ofInt
    rw [decide_eq_false (by omega), Int.natAbs_natCast]
  rw [hround]
  rcases Nat.lt_or_ge n (2 ^ 53) with hlt | hge
  · exact to_rat_of_short hpos hlt
  · exact to_rat_of_long hge h

end CardBrowser.Binary64
