import Mathlib
import CardBrowser.Proofs.Number.Rounding

/-!
# Rounded ratios

A ratio is rounded to a finite number of the format unless it reaches `overflow`, which lies halfway
between the greatest number and the next power of two: `is_finite_round_ratio`. It is rounded to a
given number if it is nearer to it than half of the distance to its neighbours, which is shorter on
the lower side of a power of two: `round_ratio_of_near`.
-/

namespace CardBrowser.Binary64

variable {m n d : Nat} {e : Int} {negative : Bool}

/-! ## Ratios -/

/-- A ratio that is scaled is multiplied by the power. -/
theorem scale_ratio_quotient (base n d : Nat) (e : Int) :
    ((scaleRatio base n d e).1 : ℚ) / (scaleRatio base n d e).2 = n / d * (base : ℚ) ^ e := by
  rcases Int.eq_nat_or_neg e with ⟨k, rfl | rfl⟩
  · rw [scale_ratio_pos, zpow_natCast]
    push_cast
    ring
  · rw [scale_ratio_neg, zpow_neg, zpow_natCast]
    push_cast
    rw [← div_div, div_eq_mul_inv (_ / _)]

/-- A ratio that is scaled keeps a positive denominator. -/
theorem scale_ratio_denominator (base n : Nat) (hbase : 0 < base) (hd : 0 < d) (e : Int) :
    0 < (scaleRatio base n d e).2 := by
  rcases Int.eq_nat_or_neg e with ⟨k, rfl | rfl⟩
  · rw [scale_ratio_pos]
    exact hd
  · rw [scale_ratio_neg]
    positivity

/-- A ratio lies between the powers of two that its bits tell. -/
theorem quotient_bounds (hn : 0 < n) (hd : 0 < d) :
    (2 : ℚ) ^ ((n.log2 : Int) - d.log2 - 1) < n / d ∧
      (n / d : ℚ) < (2 : ℚ) ^ ((n.log2 : Int) - d.log2 + 1) := by
  have hnlow : (2 : ℚ) ^ (n.log2 : Int) ≤ n := by
    rw [zpow_natCast]
    exact_mod_cast Nat.log2_self_le hn.ne'
  have hnhigh : (n : ℚ) < (2 : ℚ) ^ ((n.log2 : Int) + 1) := by
    rw [← Nat.cast_succ, zpow_natCast]
    exact_mod_cast Nat.lt_log2_self
  have hdlow : (2 : ℚ) ^ (d.log2 : Int) ≤ d := by
    rw [zpow_natCast]
    exact_mod_cast Nat.log2_self_le hd.ne'
  have hdhigh : (d : ℚ) < (2 : ℚ) ^ ((d.log2 : Int) + 1) := by
    rw [← Nat.cast_succ, zpow_natCast]
    exact_mod_cast Nat.lt_log2_self
  have hdpos : (0 : ℚ) < d := by exact_mod_cast hd
  constructor
  · rw [lt_div_iff₀ hdpos]
    calc (2 : ℚ) ^ ((n.log2 : Int) - d.log2 - 1) * d
        < (2 : ℚ) ^ ((n.log2 : Int) - d.log2 - 1) * (2 : ℚ) ^ ((d.log2 : Int) + 1) := by gcongr
      _ = (2 : ℚ) ^ (n.log2 : Int) := by rw [← zpow_add₀ two_ne_zero]; congr 1; ring
      _ ≤ n := hnlow
  · rw [div_lt_iff₀ hdpos]
    calc (n : ℚ) < (2 : ℚ) ^ ((n.log2 : Int) + 1) := hnhigh
      _ = (2 : ℚ) ^ ((n.log2 : Int) - d.log2 + 1) * (2 : ℚ) ^ (d.log2 : Int) := by
          rw [← zpow_add₀ two_ne_zero]; congr 1; ring
      _ ≤ (2 : ℚ) ^ ((n.log2 : Int) - d.log2 + 1) * d := by gcongr

/-- At the exponent of a ratio its significand has at most 53 bits, and no fewer unless the exponent
is the least one. -/
theorem exponent_of_spec (hn : 0 < n) (hd : 0 < d) :
    (n / d : ℚ) < (2 : ℚ) ^ (53 + exponentOf n d) ∧
      (exponentOf n d = leastExponent ∨
        leastExponent < exponentOf n d ∧ (2 : ℚ) ^ (52 + exponentOf n d) ≤ n / d) := by
  obtain ⟨hlow, hhigh⟩ := quotient_bounds hn hd
  -- The guess is the exponent or one too small, which its significand tells.
  generalize hguess : (n.log2 : Int) - d.log2 - 53 = guess
  have htest : (scaleRatio 2 n d (-guess)).1 < significandLimit * (scaleRatio 2 n d (-guess)).2 ↔
      (n / d : ℚ) < (2 : ℚ) ^ (53 + guess) := by
    have hpos : (0 : ℚ) < (scaleRatio 2 n d (-guess)).2 := by
      exact_mod_cast scale_ratio_denominator 2 n Nat.two_pos hd (-guess)
    have hlimit : (significandLimit : ℚ) = (2 : ℚ) ^ (53 : Int) := by norm_num [significandLimit]
    rw [← Nat.cast_lt (α := ℚ), Nat.cast_mul, ← div_lt_iff₀ hpos, scale_ratio_quotient, hlimit,
      zpow_add₀ two_ne_zero, zpow_neg, ← div_eq_mul_inv, div_lt_iff₀ (by positivity)]
    norm_cast
  have hexponent : exponentOf n d =
      max (if (n / d : ℚ) < (2 : ℚ) ^ (53 + guess) then guess else guess + 1) leastExponent := by
    unfold exponentOf
    dsimp only
    rw [hguess]
    exact congrArg (max · leastExponent) (if_congr htest rfl rfl)
  have hnear : (n / d : ℚ) <
      (2 : ℚ) ^ (53 + if (n / d : ℚ) < (2 : ℚ) ^ (53 + guess) then guess else guess + 1) ∧
      (2 : ℚ) ^ (52 + if (n / d : ℚ) < (2 : ℚ) ^ (53 + guess) then guess else guess + 1) ≤
        n / d := by
    split_ifs with h
    · exact ⟨h, (zpow_le_zpow_right₀ one_le_two (by omega)).trans hlow.le⟩
    · exact ⟨hhigh.trans_le (zpow_le_zpow_right₀ one_le_two (by omega)),
        (zpow_le_zpow_right₀ one_le_two (by omega)).trans (not_lt.1 h)⟩
  rw [hexponent]
  generalize (if (n / d : ℚ) < (2 : ℚ) ^ (53 + guess) then guess else guess + 1) = e at hnear
  rcases le_or_gt e leastExponent with hle | hgt
  · rw [max_eq_right hle]
    exact ⟨hnear.1.trans_le (zpow_le_zpow_right₀ one_le_two (by omega)), Or.inl rfl⟩
  · rw [max_eq_left hgt.le]
    exact ⟨hnear.1, Or.inr ⟨hgt, hnear.2⟩⟩

/-! ## Whole quotients -/

/-- A quotient is rounded to a number that is nearer than half. -/
theorem nearest_of_near (hd : 0 < d) (hlow : (m : ℚ) - 1 / 2 < n / d)
    (hhigh : (n / d : ℚ) < m + 1 / 2) : nearest n d = m := by
  have hdpos : (0 : ℚ) < d := by exact_mod_cast hd
  have hlow : 2 * (d * m) < 2 * n + d := by
    rw [lt_div_iff₀ hdpos] at hlow
    have hcast : (2 * (d * m) : ℚ) < 2 * n + d := by linarith
    exact_mod_cast hcast
  have hhigh : 2 * n < 2 * (d * m) + d := by
    rw [div_lt_iff₀ hdpos] at hhigh
    have hcast : (2 * n : ℚ) < 2 * (d * m) + d := by linarith
    exact_mod_cast hcast
  have hdivision := Nat.div_add_mod n d
  have hremainder := Nat.mod_lt n hd
  unfold nearest
  dsimp only
  generalize n / d = q at hdivision ⊢
  generalize n % d = r at hdivision hremainder ⊢
  -- The quotient is the number itself or the one before it.
  have hcases : q = m ∨ m = q + 1 := by
    rcases lt_trichotomy q m with hlt | heq | hgt
    · refine Or.inr (le_antisymm (not_lt.1 fun hfar => ?_) hlt)
      have hmul : d * (q + 2) ≤ d * m := Nat.mul_le_mul_left d hfar
      rw [Nat.mul_add] at hmul
      omega
    · exact Or.inl heq
    · have hmul : d * (m + 1) ≤ d * q := Nat.mul_le_mul_left d hgt
      rw [Nat.mul_add] at hmul
      omega
  rcases hcases with rfl | rfl
  · exact if_pos (by omega)
  · rw [Nat.mul_add, Nat.mul_one] at hlow hhigh
    rw [if_neg (by omega), if_pos (by omega)]

/-- The same of a quotient that has been divided by a power of two. -/
theorem nearest_of_near_scaled {a b : Nat} {q : ℚ} (hb : 0 < b)
    (hquotient : (a / b : ℚ) = q / (2 : ℚ) ^ e) (hlow : ((m : ℚ) - 1 / 2) * (2 : ℚ) ^ e < q)
    (hhigh : q < (m + 1 / 2) * (2 : ℚ) ^ e) : nearest a b = m := by
  have hpower : (0 : ℚ) < (2 : ℚ) ^ e := zpow_pos two_pos e
  refine nearest_of_near hb ?_ ?_
  · rw [hquotient, lt_div_iff₀ hpower]
    exact hlow
  · rw [hquotient, div_lt_iff₀ hpower]
    exact hhigh

/-- A quotient is rounded to a number that is no farther than half. -/
theorem nearest_near (hd : 0 < d) :
    (nearest n d : ℚ) - 1 / 2 ≤ n / d ∧ (n / d : ℚ) ≤ nearest n d + 1 / 2 := by
  have hdpos : (0 : ℚ) < d := by exact_mod_cast hd
  have hdivision := Nat.div_add_mod n d
  have hremainder := Nat.mod_lt n hd
  have hbounds : 2 * (d * nearest n d) ≤ 2 * n + d ∧ 2 * n ≤ 2 * (d * nearest n d) + d := by
    unfold nearest
    dsimp only
    generalize n / d = q at hdivision ⊢
    generalize n % d = r at hdivision hremainder ⊢
    have hnext : d * (q + 1) = d * q + d := Nat.mul_succ d q
    split_ifs <;> omega
  have hlow : (2 * (d * nearest n d) : ℚ) ≤ 2 * n + d := by exact_mod_cast hbounds.1
  have hhigh : (2 * n : ℚ) ≤ 2 * (d * nearest n d) + d := by exact_mod_cast hbounds.2
  rw [le_div_iff₀ hdpos, div_le_iff₀ hdpos]
  constructor <;> linarith

/-- A quotient that is not greater than a number is not rounded to a greater one. -/
theorem nearest_le (hd : 0 < d) (h : (n / d : ℚ) ≤ m) : nearest n d ≤ m := by
  rw [div_le_iff₀ (by exact_mod_cast hd)] at h
  rw [← nearest_mul hd m]
  exact nearest_mono (by exact_mod_cast h)

/-- A quotient that is not less than a number is not rounded to a lesser one. -/
theorem le_nearest (hd : 0 < d) (h : (m : ℚ) ≤ n / d) : m ≤ nearest n d := by
  rw [le_div_iff₀ (by exact_mod_cast hd)] at h
  rw [← nearest_mul hd m]
  exact nearest_mono (by exact_mod_cast h)

/-! ## Numbers of the format -/

/-- A finite number whose significand has at most 53 bits, and no fewer unless its exponent is the
least one. -/
def IsFinite : Binary64 → Prop
  | finite _ significand exponent =>
    significand < 2 ^ 53 ∧ leastExponent ≤ exponent ∧ exponent ≤ greatestExponent ∧
      (exponent = leastExponent ∨ 2 ^ 52 ≤ significand)
  | _ => False

/-- The size of a finite number. -/
def size : Binary64 → ℚ
  | finite _ significand exponent => significand * (2 : ℚ) ^ exponent
  | _ => 0

/-- The greatest number. -/
def greatest : Nat := (2 ^ 53 - 1) * 2 ^ 971

/-- What is halfway between the greatest number and the power of two after it. -/
def overflow : Nat := (2 ^ 54 - 1) * 2 ^ 970

/-- A number that is given by its bits and a power of two. -/
theorem bits_eq (bits power : Nat) :
    (((2 ^ bits - 1) * 2 ^ power : Nat) : ℚ) = ((2 : ℚ) ^ bits - 1) * (2 : ℚ) ^ (power : Int) := by
  rw [Nat.cast_mul, Nat.cast_sub Nat.one_le_two_pow, zpow_natCast]
  push_cast
  rfl

/-- The greatest number has 53 bits. -/
theorem greatest_eq : (greatest : ℚ) = ((2 : ℚ) ^ 53 - 1) * (2 : ℚ) ^ (971 : Int) :=
  bits_eq 53 971

/-- What is halfway has one bit more. -/
theorem overflow_eq : (overflow : ℚ) = ((2 : ℚ) ^ 54 - 1) * (2 : ℚ) ^ (970 : Int) :=
  bits_eq 54 970

/-- A zero is a finite number. -/
theorem is_finite_zero (negative : Bool) : IsFinite (zero negative) :=
  ⟨by norm_num, le_rfl, by decide, Or.inl rfl⟩

/-- What a ratio is rounded to, said of its significand at its exponent. -/
theorem round_ratio_spec (negative : Bool) (hn : 0 < n) (hd : 0 < d) :
    ∃ a b : Nat, 0 < b ∧ (a / b : ℚ) = n / d / (2 : ℚ) ^ exponentOf n d ∧
      roundRatio negative n d =
        if nearest a b = 2 ^ 53 then
          if greatestExponent < exponentOf n d + 1 then infinite negative
          else finite negative (2 ^ 52) (exponentOf n d + 1)
        else
          if greatestExponent < exponentOf n d then infinite negative
          else finite negative (nearest a b) (exponentOf n d) := by
  have hpos := scale_ratio_denominator 2 n Nat.two_pos hd (-exponentOf n d)
  have hquotient := scale_ratio_quotient 2 n d (-exponentOf n d)
  obtain ⟨a, b, hscaled⟩ : ∃ a b, scaleRatio 2 n d (-exponentOf n d) = (a, b) := ⟨_, _, rfl⟩
  rw [hscaled] at hpos hquotient
  refine ⟨a, b, hpos, ?_, ?_⟩
  · rw [hquotient, zpow_neg, ← div_eq_mul_inv]
    norm_cast
  · unfold roundRatio
    rw [if_neg hn.ne']
    dsimp only
    rw [hscaled]
    dsimp only
    have hlimit : significandLimit = 2 ^ 53 := rfl
    have hhalf : significandLimit / 2 = 2 ^ 52 := rfl
    rw [hhalf, hlimit]
    split_ifs <;> rfl

/-- A ratio is rounded to a finite number or out of the range. -/
theorem round_ratio_cases (negative : Bool) (n : Nat) (hd : 0 < d) :
    IsFinite (roundRatio negative n d) ∨ roundRatio negative n d = infinite negative := by
  rcases Nat.eq_zero_or_pos n with rfl | hn
  · exact Or.inl (is_finite_zero negative)
  obtain ⟨a, b, hb, hquotient, hround⟩ := round_ratio_spec negative hn hd
  obtain ⟨hhigh, hlow⟩ := exponent_of_spec hn hd
  have hgreatest : greatestExponent = 971 := rfl
  have hleast : leastExponent = -1074 := rfl
  generalize exponentOf n d = e at *
  have hpower : (0 : ℚ) < (2 : ℚ) ^ e := by positivity
  have hshort : nearest a b ≤ 2 ^ 53 := by
    refine nearest_le hb ?_
    rw [hquotient, div_le_iff₀ hpower]
    calc (n / d : ℚ) ≤ (2 : ℚ) ^ (53 + e) := hhigh.le
      _ = ((2 ^ 53 : Nat) : ℚ) * (2 : ℚ) ^ e := by rw [zpow_add₀ two_ne_zero]; norm_num
  have hlong : e = leastExponent ∨ leastExponent < e ∧ 2 ^ 52 ≤ nearest a b := by
    refine hlow.imp_right (And.imp_right fun h => le_nearest hb ?_)
    rw [hquotient, le_div_iff₀ hpower]
    calc ((2 ^ 52 : Nat) : ℚ) * (2 : ℚ) ^ e = (2 : ℚ) ^ (52 + e) := by
          rw [zpow_add₀ two_ne_zero]; norm_num
      _ ≤ n / d := h
  rw [hround]
  split_ifs with hcarry hover hover
  · exact Or.inr rfl
  · refine Or.inl ⟨by norm_num, ?_, by omega, Or.inr le_rfl⟩
    rcases hlong with rfl | ⟨hlt, -⟩ <;> omega
  · exact Or.inr rfl
  · refine Or.inl ⟨lt_of_le_of_ne hshort hcarry, ?_, by omega, hlong.imp_right And.right⟩
    rcases hlong with rfl | ⟨hlt, -⟩ <;> omega

/-- A ratio below `overflow` is rounded to a finite number. -/
theorem is_finite_round_ratio (negative : Bool) (hd : 0 < d) (h : (n / d : ℚ) < overflow) :
    IsFinite (roundRatio negative n d) := by
  refine (round_ratio_cases negative n hd).resolve_right fun hinfinite => ?_
  rcases Nat.eq_zero_or_pos n with rfl | hn
  · cases hinfinite
  obtain ⟨a, b, hb, hquotient, hround⟩ := round_ratio_spec negative hn hd
  obtain ⟨-, hlow⟩ := exponent_of_spec hn hd
  have hgreatest : greatestExponent = 971 := rfl
  have hleast : leastExponent = -1074 := rfl
  generalize exponentOf n d = e at *
  have hover : (2 : ℚ) ^ (1024 : Int) ≤ n / d → False := by
    intro hge
    refine absurd (hge.trans_lt h) (not_lt.2 ?_)
    calc (overflow : ℚ) ≤ (2 : ℚ) ^ (54 : Int) * (2 : ℚ) ^ (970 : Int) := by
          rw [overflow_eq]
          gcongr
          norm_num
      _ = (2 : ℚ) ^ (1024 : Int) := by rw [← zpow_add₀ two_ne_zero]; rfl
  rw [hround] at hinfinite
  split_ifs at hinfinite with hcarry hgreater hgreater
  · -- Rounding up has made one bit more, so at the greatest exponent the ratio reaches `overflow`.
    rcases (Int.lt_add_one_iff.1 hgreater).lt_or_eq with hlt | heq
    · refine hover ((zpow_le_zpow_right₀ one_le_two ?_).trans (hlow.resolve_left (by omega)).2)
      omega
    · obtain ⟨hnear, -⟩ : ((nearest a b : Nat) : ℚ) - 1 / 2 ≤ a / b ∧ _ := nearest_near hb
      rw [hcarry, hquotient, ← heq, hgreatest, le_div_iff₀ (by positivity)] at hnear
      refine absurd (hnear.trans_lt h) (not_lt.2 ?_)
      have hnext : (2 : ℚ) ^ (971 : Int) = 2 * (2 : ℚ) ^ (970 : Int) :=
        zpow_one_add₀ two_ne_zero 970
      rw [overflow_eq, hnext, ← mul_assoc]
      gcongr
      norm_num
  · refine hover ((zpow_le_zpow_right₀ one_le_two ?_).trans (hlow.resolve_left (by omega)).2)
    omega

/-- A ratio that is rounded to a finite number is no greater than `overflow`. -/
theorem quotient_le_overflow (negative : Bool) (hd : 0 < d)
    (h : IsFinite (roundRatio negative n d)) :
    (n / d : ℚ) ≤ overflow := by
  rcases Nat.eq_zero_or_pos n with rfl | hn
  · rw [Nat.cast_zero, zero_div]
    exact Nat.cast_nonneg _
  obtain ⟨a, b, hb, hquotient, hround⟩ := round_ratio_spec negative hn hd
  obtain ⟨habove, -⟩ := exponent_of_spec hn hd
  have hgreatest : greatestExponent = 971 := rfl
  have hnear := (nearest_near (n := a) hb).2
  rw [hround] at h
  generalize exponentOf n d = e at *
  -- At the greatest exponent the ratio is at most half of the last bit above the significand.
  rw [overflow_eq]
  split_ifs at h with hcarry hgreater hgreater
  · exact absurd h id
  · calc (n / d : ℚ) ≤ (2 : ℚ) ^ (53 + e) := habove.le
      _ = 2 ^ 53 * (2 : ℚ) ^ e := zpow_add₀ two_ne_zero 53 e
      _ ≤ (2 ^ 54 - 1) * (2 : ℚ) ^ (970 : Int) := by
          refine mul_le_mul ?_ (zpow_le_zpow_right₀ one_le_two (by omega)) ?_ ?_
          · norm_num
          · positivity
          · norm_num
  · exact absurd h id
  · have hshort : (nearest a b : ℚ) ≤ 2 ^ 53 - 1 := by
      have hcast : (nearest a b : ℚ) + 1 ≤ 2 ^ 53 := by exact_mod_cast h.1
      linarith
    have hlast : (2 : ℚ) ^ (971 : Int) = 2 * (2 : ℚ) ^ (970 : Int) :=
      zpow_one_add₀ two_ne_zero 970
    rw [hquotient, div_le_iff₀ (by positivity)] at hnear
    calc (n / d : ℚ) ≤ (nearest a b + 1 / 2) * (2 : ℚ) ^ e := hnear
      _ ≤ (2 ^ 53 - 1 + 1 / 2) * (2 : ℚ) ^ (971 : Int) := by
          refine mul_le_mul (by linarith) (zpow_le_zpow_right₀ one_le_two (by omega)) ?_ ?_
          · positivity
          · norm_num
      _ = (2 ^ 54 - 1) * (2 : ℚ) ^ (970 : Int) := by
          rw [hlast]
          ring

/-- The exponent of a number that is near to another is the same, or the one below if the other is
a power of two. -/
theorem exponent_of_near {q : ℚ} {f : Int} (hfinite : IsFinite (finite negative m e))
    (hlow : ((m : ℚ) - 1 / 2) * (2 : ℚ) ^ e < q) (hhigh : q < (m + 1 / 2) * (2 : ℚ) ^ e)
    (hedge : m = 2 ^ 52 → ((m : ℚ) - 1 / 4) * (2 : ℚ) ^ e < q)
    (habove : q < (2 : ℚ) ^ (53 + f))
    (hbelow : f = leastExponent ∨ leastExponent < f ∧ (2 : ℚ) ^ (52 + f) ≤ q) :
    f = e ∨ m = 2 ^ 52 ∧ f = e - 1 := by
  obtain ⟨hshort, hleast, -, hlong⟩ := hfinite
  have hpower : (0 : ℚ) < (2 : ℚ) ^ e := zpow_pos two_pos e
  -- So many bits fit below the exponent only if the significand has so many.
  have hbits : ∀ {r : ℚ} {k : Nat}, r * (2 : ℚ) ^ e < q → 53 + f ≤ k + e → r < 2 ^ k := by
    intro r k hr hk
    refine lt_of_mul_lt_mul_right ?_ hpower.le
    calc r * (2 : ℚ) ^ e < q := hr
      _ < (2 : ℚ) ^ (53 + f) := habove
      _ ≤ (2 : ℚ) ^ (k + e) := zpow_le_zpow_right₀ one_le_two hk
      _ = (2 : ℚ) ^ k * (2 : ℚ) ^ e := zpow_add₀ two_ne_zero k e
  rcases lt_trichotomy f e with hlt | heq | hgt
  · have hm52 : m = 2 ^ 52 := by
      refine le_antisymm ?_ (hlong.resolve_left (by rcases hbelow with rfl | ⟨h, -⟩ <;> omega))
      have hless : (m : ℚ) - 1 / 2 < 2 ^ 52 := hbits hlow (by push_cast; omega)
      have hcast : (m : ℚ) < (2 ^ 52 + 1 : Nat) := by push_cast; linarith
      exact Nat.lt_succ_iff.1 (by exact_mod_cast hcast)
    refine Or.inr ⟨hm52, ?_⟩
    by_contra hne
    have hless : (m : ℚ) - 1 / 4 < 2 ^ 51 := hbits (hedge hm52) (by push_cast; omega)
    rw [hm52] at hless
    norm_num at hless
  · exact Or.inl heq
  · exfalso
    have hm53 : (m : ℚ) + 1 ≤ 2 ^ 53 := by exact_mod_cast hshort
    have hpart : (2 : ℚ) ^ 53 * (2 : ℚ) ^ e < (m + 1 / 2) * (2 : ℚ) ^ e := by
      calc (2 : ℚ) ^ 53 * (2 : ℚ) ^ e = (2 : ℚ) ^ (53 + e) := (zpow_add₀ two_ne_zero 53 e).symm
        _ ≤ (2 : ℚ) ^ (52 + f) := zpow_le_zpow_right₀ one_le_two (by omega)
        _ ≤ q := (hbelow.resolve_left (by omega)).2
        _ < (m + 1 / 2) * (2 : ℚ) ^ e := hhigh
    have hless := lt_of_mul_lt_mul_right hpart hpower.le
    linarith

/-- A ratio is rounded to a number that it is nearer to than half of the last bit. Below a power of
two the numbers lie twice as close, so there it has to be nearer than a quarter. -/
theorem round_ratio_of_near (hd : 0 < d) (hm : 0 < m) (hfinite : IsFinite (finite negative m e))
    (hlow : ((m : ℚ) - 1 / 2) * (2 : ℚ) ^ e < n / d)
    (hhigh : (n / d : ℚ) < (m + 1 / 2) * (2 : ℚ) ^ e)
    (hedge : m = 2 ^ 52 → ((m : ℚ) - 1 / 4) * (2 : ℚ) ^ e < n / d) :
    roundRatio negative n d = finite negative m e := by
  have hpower : ∀ k : Int, (0 : ℚ) < (2 : ℚ) ^ k := fun k => zpow_pos two_pos k
  have hn : 0 < n := by
    rcases Nat.eq_zero_or_pos n with rfl | hn
    · have hm1 : (1 : ℚ) ≤ m := by exact_mod_cast hm
      have hpos : 0 < ((m : ℚ) - 1 / 2) * (2 : ℚ) ^ e := mul_pos (by linarith) (hpower e)
      rw [Nat.cast_zero, zero_div] at hlow
      linarith
    · exact hn
  obtain ⟨a, b, hb, hquotient, hround⟩ := round_ratio_spec negative hn hd
  obtain ⟨habove, hbelow⟩ := exponent_of_spec hn hd
  have hexponent := exponent_of_near hfinite hlow hhigh hedge habove hbelow
  obtain ⟨hshort, -, hgreatest, -⟩ := hfinite
  rw [hround]
  generalize exponentOf n d = f at *
  generalize (n / d : ℚ) = q at *
  rcases hexponent with rfl | ⟨rfl, rfl⟩
  · -- At its exponent the ratio is nearer to the significand than half.
    rw [nearest_of_near_scaled hb hquotient hlow hhigh, if_neg (by omega), if_neg (by omega)]
  · -- The ratio lies just below a power of two, and rounding it up makes one bit more.
    have htwice : (2 : ℚ) ^ e = 2 * (2 : ℚ) ^ (e - 1) := by
      rw [← zpow_one_add₀ two_ne_zero]
      congr 1
      omega
    have hedge := hedge rfl
    rw [htwice] at hedge
    rw [zpow_add₀ two_ne_zero] at habove
    have hnearest : nearest a b = 2 ^ 53 := by
      refine nearest_of_near_scaled hb hquotient (lt_of_eq_of_lt ?_ hedge) (habove.trans ?_)
      · push_cast
        ring
      · refine mul_lt_mul_of_pos_right ?_ (hpower (e - 1))
        norm_num
    rw [if_pos hnearest, if_neg (by omega), Int.sub_add_cancel]

/-! ## Products and quotients -/

/-- The size of a finite number as a ratio. -/
theorem magnitude_quotient (significand : Nat) (exponent : Int) :
    ((magnitude significand exponent).1 : ℚ) / (magnitude significand exponent).2 =
      significand * (2 : ℚ) ^ exponent := by
  unfold magnitude
  rw [scale_ratio_quotient, Nat.cast_one, div_one]
  norm_cast

/-- The ratio of a finite number has a positive denominator. -/
theorem magnitude_denominator (significand : Nat) (exponent : Int) :
    0 < (magnitude significand exponent).2 :=
  scale_ratio_denominator 2 significand Nat.two_pos Nat.one_pos exponent

/-- A word of 64 bits is rounded to a finite number. -/
theorem is_finite_round_word (negative : Bool) (h : n < 2 ^ 64) :
    (roundRatio negative n 1).IsFinite := by
  have hless : 2 ^ 64 < overflow := by decide +kernel
  refine is_finite_round_ratio negative Nat.one_pos ?_
  rw [Nat.cast_one, div_one]
  exact_mod_cast h.trans hless

/-- The sign does not matter for the size that a ratio is rounded to. -/
theorem size_round_ratio (negative : Bool) (n d : Nat) :
    (roundRatio negative n d).size = (roundRatio false n d).size := by
  unfold roundRatio
  dsimp only
  split_ifs <;> rfl

/-- A ratio is rounded to a number of its sign. -/
theorem is_negative_round_ratio (negative : Bool) (n d : Nat) :
    (roundRatio negative n d).isNegative = negative := by
  unfold roundRatio
  dsimp only
  split_ifs <;> rfl

/-- The size of a positive number is its exact value. -/
theorem to_rat_of_finite (m : Nat) (e : Int) :
    (finite false m e).toRat? = some (finite false m e).size := by
  unfold toRat? size
  dsimp only
  rw [if_neg Bool.false_ne_true, Rat.mkRat_eq_div, Int.cast_natCast, magnitude_quotient]

/-- A word of 64 bits is rounded to its significant bits. -/
theorem size_round_word (negative : Bool) (h : n < 2 ^ 64) :
    (roundRatio negative n 1).size = significant n := by
  have hvalue := to_rat_of_nat h
  have hsign := is_negative_round_ratio false n 1
  have hround : ofInt n = roundRatio false n 1 := by
    unfold ofInt
    rw [decide_eq_false (by omega), Int.natAbs_natCast]
  rw [size_round_ratio]
  rw [hround] at hvalue
  cases hx : roundRatio false n 1 with
  | finite negative m e =>
    rw [hx] at hvalue hsign
    obtain rfl : negative = false := hsign
    rw [to_rat_of_finite] at hvalue
    exact Option.some.inj hvalue
  | infinite negative =>
    rw [hx] at hvalue
    cases hvalue
  | notANumber =>
    rw [hx] at hvalue
    cases hvalue

/-- The product of two numbers is the rounded product of their ratios. -/
theorem mul_finite (s t : Bool) (m k : Nat) (e f : Int) :
    (finite s m e).mul (finite t k f) = roundRatio (s != t)
      ((magnitude m e).1 * (magnitude k f).1) ((magnitude m e).2 * (magnitude k f).2) := rfl

/-- The quotient of two numbers is the rounded quotient of their ratios. -/
theorem div_finite (s t : Bool) (m : Nat) {k : Nat} (hk : k ≠ 0) (e f : Int) :
    (finite s m e).div (finite t k f) = roundRatio (s != t)
      ((magnitude m e).1 * (magnitude k f).2) ((magnitude m e).2 * (magnitude k f).1) :=
  if_neg hk

/-- A product of finite numbers is a finite number or lies out of the range. -/
theorem mul_cases {x y : Binary64} (hx : x.IsFinite) (hy : y.IsFinite) :
    (x.mul y).IsFinite ∨ ∃ negative, x.mul y = infinite negative := by
  match x, hx, y, hy with
  | finite s m e, _, finite t k f, _ =>
    rw [mul_finite]
    have hd := Nat.mul_pos (magnitude_denominator m e) (magnitude_denominator k f)
    exact (round_ratio_cases _ _ hd).imp_right fun h => ⟨_, h⟩

/-- A product below `overflow` is a finite number. -/
theorem is_finite_mul {x y : Binary64} (hx : x.IsFinite) (hy : y.IsFinite)
    (h : x.size * y.size < overflow) : (x.mul y).IsFinite := by
  match x, hx, y, hy with
  | finite s m e, _, finite t k f, _ =>
    rw [mul_finite]
    refine is_finite_round_ratio _
      (Nat.mul_pos (magnitude_denominator m e) (magnitude_denominator k f)) ?_
    rw [Nat.cast_mul, Nat.cast_mul, mul_div_mul_comm, magnitude_quotient, magnitude_quotient]
    exact h

/-- Finite numbers are no greater than the greatest one. -/
theorem size_le_greatest {x : Binary64} (hx : x.IsFinite) : x.size ≤ greatest := by
  match x, hx with
  | finite _ m e, ⟨hshort, _, hlast, _⟩ =>
    have hm : (m : ℚ) ≤ 2 ^ 53 - 1 := by
      have : (m : ℚ) + 1 ≤ 2 ^ 53 := by exact_mod_cast hshort
      linarith
    rw [greatest_eq]
    refine mul_le_mul hm (zpow_le_zpow_right₀ one_le_two hlast) ?_ ?_
    · positivity
    · norm_num

/-- Finite numbers lie below `overflow`. -/
theorem size_lt_overflow {x : Binary64} (hx : x.IsFinite) : x.size < overflow := by
  have hless : greatest < overflow := by decide +kernel
  exact (size_le_greatest hx).trans_lt (by exact_mod_cast hless)

/-- A quotient by a number that is not less than one is a finite number. -/
theorem is_finite_div {x y : Binary64} (hx : x.IsFinite) (hy : y.IsFinite) (hone : 1 ≤ y.size) :
    (x.div y).IsFinite := by
  match x, hx, y, hy, hone with
  | finite s m e, hx, finite t k f, _, hone =>
    have hone : (1 : ℚ) ≤ k * (2 : ℚ) ^ f := hone
    have hk : k ≠ 0 := by
      rintro rfl
      norm_num at hone
    have hnumerator : 0 < (magnitude k f).1 := by
      rw [Nat.pos_iff_ne_zero]
      intro hzero
      have hsize := magnitude_quotient k f
      rw [hzero, Nat.cast_zero, zero_div] at hsize
      linarith
    rw [div_finite s t m hk e f]
    refine is_finite_round_ratio _ (Nat.mul_pos (magnitude_denominator m e) hnumerator) ?_
    rw [Nat.cast_mul, Nat.cast_mul, mul_div_mul_comm, magnitude_quotient,
      ← inv_div ((magnitude k f).1 : ℚ), magnitude_quotient, ← div_eq_mul_inv]
    refine lt_of_le_of_lt (div_le_self ?_ hone) (size_lt_overflow hx)
    positivity

end CardBrowser.Binary64
