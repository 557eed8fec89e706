import Mathlib
import CardBrowser.Number.Decimal
import CardBrowser.Proofs.Number.Nearest

/-!
# Shortest decimals

Seventeen digits always suffice to tell a number of the format from all others, because the decimal
grid is then finer than the binary one: `neighbour_seventeen`. So `Decimal.shortest` finds a decimal
that is rounded to the number again, and `shortest_spec` says how large it may be. A reader that
rounds the digits and the power of ten before it multiplies them stays in the range, `shortest_mul`,
though it may miss the number.
-/

namespace CardBrowser.Decimal

open Binary64

variable {n d m count : Nat} {e : Int} {decimal : Decimal}

/-! ## Powers of ten and of two -/

/-- A power of ten is at most a power of two by `10^59 < 2^196` and `2^93 < 10^28`. -/
theorem ten_zpow_le {j l : Int} (hpos : 0 ≤ j → 196 * j ≤ 59 * l)
    (hneg : j < 0 → 93 * j ≤ 28 * l) : (10 : ℚ) ^ j ≤ (2 : ℚ) ^ l := by
  have hten : (0 : ℚ) ≤ (10 : ℚ) ^ j := by positivity
  have htwo : (0 : ℚ) ≤ (2 : ℚ) ^ l := by positivity
  rcases le_or_gt 0 j with hj | hj
  · rw [← pow_le_pow_iff_left₀ hten htwo (n := 59) (by norm_num)]
    calc ((10 : ℚ) ^ j) ^ 59 = ((10 : ℚ) ^ 59) ^ j := by
          rw [← zpow_natCast, ← zpow_mul, ← zpow_natCast, ← zpow_mul, mul_comm]
      _ ≤ ((2 : ℚ) ^ 196) ^ j := zpow_le_zpow_left₀ hj (by norm_num) (by norm_num)
      _ = (2 : ℚ) ^ (196 * j) := by rw [← zpow_natCast, ← zpow_mul]; rfl
      _ ≤ (2 : ℚ) ^ (59 * l) := zpow_le_zpow_right₀ one_le_two (hpos hj)
      _ = ((2 : ℚ) ^ l) ^ 59 := by rw [← zpow_natCast, ← zpow_mul, mul_comm]; rfl
  · obtain ⟨k, rfl⟩ : ∃ k : Nat, j = -k := ⟨j.natAbs, by omega⟩
    rw [← pow_le_pow_iff_left₀ hten htwo (n := 28) (by norm_num)]
    calc ((10 : ℚ) ^ (-(k : Int))) ^ 28 = (((10 : ℚ) ^ 28) ^ k)⁻¹ := by
          rw [zpow_neg, zpow_natCast, inv_pow, pow_right_comm]
      _ ≤ (((2 : ℚ) ^ 93) ^ k)⁻¹ := by
          gcongr
          norm_num
      _ = (2 : ℚ) ^ (93 * -(k : Int)) := by
          rw [← pow_mul, ← zpow_natCast, ← zpow_neg]
          congr 1
          push_cast
          ring
      _ ≤ (2 : ℚ) ^ (28 * l) := zpow_le_zpow_right₀ one_le_two (hneg hj)
      _ = ((2 : ℚ) ^ l) ^ 28 := by rw [← zpow_natCast, ← zpow_mul, mul_comm]; rfl

/-- A power of two is at most a power of ten, by the same powers. -/
theorem two_zpow_le {j l : Int} (hpos : 0 ≤ j → 28 * l ≤ 93 * j)
    (hneg : j < 0 → 59 * l ≤ 196 * j) : (2 : ℚ) ^ l ≤ (10 : ℚ) ^ j := by
  have h := ten_zpow_le (j := -j) (l := -l) (by omega) (by omega)
  rw [zpow_neg, zpow_neg] at h
  exact (inv_le_inv₀ (by positivity) (by positivity)).1 h

/-! ## Leading digits -/

/-- The leading digit of a ratio of numbers of the format lies at the place that `leadingExponent`
tells. The logarithm that it guesses with is accurate to a place for these. -/
theorem leading_exponent_spec (hn : 0 < n) (hd : 0 < d) (hlow : (2 : ℚ) ^ (-1074 : Int) ≤ n / d)
    (hhigh : (n / d : ℚ) < (2 : ℚ) ^ (1024 : Int)) :
    (10 : ℚ) ^ leadingExponent n d ≤ n / d ∧
      (n / d : ℚ) < (10 : ℚ) ^ (leadingExponent n d + 1) := by
  obtain ⟨habove, hbelow⟩ := quotient_bounds hn hd
  have hleast : -1074 < (n.log2 : Int) - d.log2 + 1 :=
    (zpow_lt_zpow_iff_right₀ one_lt_two).1 (hlow.trans_lt hbelow)
  have hgreatest : (n.log2 : Int) - d.log2 - 1 < 1024 :=
    (zpow_lt_zpow_iff_right₀ one_lt_two).1 (habove.trans hhigh)
  unfold leadingExponent
  dsimp only
  generalize (n.log2 : Int) - d.log2 = bits at *
  generalize hguess : bits * 30103 / 100000 = guess
  have hfits : ∀ e : Int,
      decide ((scaleRatio 10 n d (-e)).2 ≤ (scaleRatio 10 n d (-e)).1) = true ↔
        (10 : ℚ) ^ e ≤ n / d := by
    intro e
    have hpos : (0 : ℚ) < (scaleRatio 10 n d (-e)).2 := by
      exact_mod_cast scale_ratio_denominator 10 n (by norm_num) hd (-e)
    rw [decide_eq_true_iff, ← Nat.cast_le (α := ℚ), ← one_le_div hpos, scale_ratio_quotient,
      zpow_neg, ← div_eq_mul_inv, one_le_div (by positivity)]
    norm_cast
  have hnext : (n / d : ℚ) < (10 : ℚ) ^ (guess + 1 + 1) :=
    hbelow.trans_le (two_zpow_le (by omega) (by omega))
  have hlast : (10 : ℚ) ^ (guess - 1) ≤ n / d :=
    (ten_zpow_le (by omega) (by omega)).trans habove.le
  split_ifs with hup hfit
  · exact ⟨(hfits _).1 hup, hnext⟩
  · exact ⟨(hfits _).1 hfit, not_le.1 (mt (hfits _).2 hup)⟩
  · rw [Int.sub_add_cancel]
    exact ⟨hlast, not_le.1 (mt (hfits _).2 hfit)⟩

/-- A ratio on a decimal grid is counted in units of the grid. -/
theorem on_grid_spec (n : Nat) (hd : 0 < d) (place : Int) :
    ∃ a b : Nat, 0 < b ∧ (a / b : ℚ) = n / d / (10 : ℚ) ^ place ∧
      onGrid n d place = (a / b, a % b, b) := by
  refine ⟨(scaleRatio 10 n d (-place)).1, (scaleRatio 10 n d (-place)).2,
    scale_ratio_denominator 10 n (by norm_num) hd (-place), ?_, rfl⟩
  rw [scale_ratio_quotient, zpow_neg, ← div_eq_mul_inv]
  norm_cast

/-! ## Decimals that are read back -/

/-- The least and the greatest size of a number that is not zero. -/
theorem magnitude_bounds (hm : 0 < m) (hfinite : IsFinite (finite false m e)) :
    (2 : ℚ) ^ (-1074 : Int) ≤ m * (2 : ℚ) ^ e ∧ m * (2 : ℚ) ^ e < (2 : ℚ) ^ (1024 : Int) := by
  obtain ⟨hshort, hleast, hgreatest, -⟩ := hfinite
  have hm1 : (1 : ℚ) ≤ m := by exact_mod_cast hm
  have hm53 : (m : ℚ) < (2 : ℚ) ^ (53 : Int) := by exact_mod_cast hshort
  constructor
  · calc (2 : ℚ) ^ (-1074 : Int) ≤ (2 : ℚ) ^ e := zpow_le_zpow_right₀ one_le_two hleast
      _ ≤ m * (2 : ℚ) ^ e := le_mul_of_one_le_left (by positivity) hm1
  · calc m * (2 : ℚ) ^ e < (2 : ℚ) ^ (53 : Int) * (2 : ℚ) ^ e := by gcongr
      _ = (2 : ℚ) ^ (53 + e) := (zpow_add₀ two_ne_zero 53 e).symm
      _ ≤ (2 : ℚ) ^ (1024 : Int) := zpow_le_zpow_right₀ one_le_two (by
          have hlast : greatestExponent = 971 := rfl
          omega)

/-- The place of the leading digit of a number of the format. -/
def leadingPlace (significand : Nat) (exponent : Int) : Int :=
  leadingExponent (magnitude significand exponent).1 (magnitude significand exponent).2

/-- The leading digit of a number of the format lies at its place. -/
theorem leading_place_spec (hm : 0 < m) (hfinite : IsFinite (finite false m e)) :
    (10 : ℚ) ^ leadingPlace m e ≤ m * (2 : ℚ) ^ e ∧
      m * (2 : ℚ) ^ e < (10 : ℚ) ^ (leadingPlace m e + 1) := by
  obtain ⟨hlow, hhigh⟩ := magnitude_bounds hm hfinite
  have hd := magnitude_denominator m e
  have hn : 0 < (magnitude m e).1 := by
    rw [Nat.pos_iff_ne_zero]
    intro hzero
    have hsize := magnitude_quotient m e
    rw [hzero, Nat.cast_zero, zero_div] at hsize
    rw [← hsize] at hlow
    exact absurd hlow (not_le.2 (by positivity))
  rw [← magnitude_quotient] at hlow hhigh ⊢
  exact leading_exponent_spec hn hd hlow hhigh

/-- What is tried with a count of digits: the two neighbours on the grid of so many digits, the
nearer one first. -/
theorem neighbour_spec (m : Nat) (e : Int) (count : Nat) :
    ∃ a b : Nat, 0 < b ∧
      (a / b : ℚ) = m * (2 : ℚ) ^ e / (10 : ℚ) ^ (leadingPlace m e - count + 1) ∧
      neighbour? m e count =
        if ofScientific false (nearest a b) (leadingPlace m e - count + 1) == finite false m e then
          some ⟨nearest a b, leadingPlace m e - count + 1⟩
        else if ofScientific false (if nearest a b = a / b then a / b + 1 else a / b)
            (leadingPlace m e - count + 1) == finite false m e then
          some ⟨if nearest a b = a / b then a / b + 1 else a / b, leadingPlace m e - count + 1⟩
        else none := by
  obtain ⟨a, b, hb, hquotient, hgrid⟩ := on_grid_spec (magnitude m e).1 (magnitude_denominator m e)
    (leadingPlace m e - count + 1)
  rw [magnitude_quotient] at hquotient
  refine ⟨a, b, hb, hquotient, ?_⟩
  unfold neighbour?
  dsimp only
  unfold leadingPlace at hgrid ⊢
  rw [hgrid]
  rfl

/-- A decimal is rounded as the ratio that it is. -/
theorem of_scientific_eq (negative : Bool) (digits : Nat) (place : Int) :
    ∃ n d : Nat, 0 < d ∧ (n / d : ℚ) = digits * (10 : ℚ) ^ place ∧
      ofScientific negative digits place = roundRatio negative n d := by
  refine ⟨(scaleRatio 10 digits 1 place).1, (scaleRatio 10 digits 1 place).2,
    scale_ratio_denominator 10 digits (by norm_num) Nat.one_pos place, ?_, rfl⟩
  rw [scale_ratio_quotient, Nat.cast_one, div_one]
  norm_cast

/-- The size of a decimal. -/
def size (decimal : Decimal) : ℚ :=
  decimal.digits * (10 : ℚ) ^ decimal.exponent

/-- On the grid of seventeen digits the nearer neighbour is read back: the grid is finer than the
numbers of the format, since `2^53 < 10^16`. -/
theorem neighbour_seventeen (hm : 0 < m) (hfinite : IsFinite (finite false m e)) :
    ∃ decimal, neighbour? m e 17 = some decimal ∧
      decimal.size ≤ m * (2 : ℚ) ^ e + (10 : ℚ) ^ decimal.exponent / 2 := by
  obtain ⟨a, b, hb, hquotient, hneighbour⟩ := neighbour_spec m e 17
  obtain ⟨hlead, -⟩ := leading_place_spec hm hfinite
  obtain ⟨hlow, hhigh⟩ := nearest_near (n := a) hb
  have hshort := hfinite.1
  have hplace : (10 : ℚ) ^ leadingPlace m e =
      10 ^ 16 * (10 : ℚ) ^ (leadingPlace m e - (17 : Nat) + 1) := by
    rw [← zpow_natCast, ← zpow_add₀ (by norm_num)]
    congr 1
    push_cast
    ring
  generalize leadingPlace m e - (17 : Nat) + 1 = place at *
  have hunit : (0 : ℚ) < (10 : ℚ) ^ place := by positivity
  have hpower : (0 : ℚ) < (2 : ℚ) ^ e := by positivity
  rw [hquotient, le_div_iff₀ hunit] at hlow
  rw [hquotient, div_le_iff₀ hunit] at hhigh
  rw [hplace] at hlead
  have hunit_lt : (10 : ℚ) ^ place < 2 ^ 53 / 10 ^ 16 * (2 : ℚ) ^ e := by
    have hm53 : (m : ℚ) < 2 ^ 53 := by exact_mod_cast hshort
    have hmul := mul_lt_mul_of_pos_right hm53 hpower
    linarith
  have hread : ofScientific false (nearest a b) place = finite false m e := by
    obtain ⟨n, d, hd, hratio, hround⟩ := of_scientific_eq false (nearest a b) place
    rw [hround]
    refine round_ratio_of_near hd hm hfinite ?_ ?_ fun hedge => ?_
    · rw [hratio]
      linarith
    · rw [hratio]
      linarith
    · -- At a power of two the grid is finer than half of the last bit.
      rw [hratio]
      subst hedge
      push_cast at hlow hlead hhigh ⊢
      linarith
  refine ⟨⟨nearest a b, place⟩, by rw [hneighbour, if_pos (beq_iff_eq.2 hread)], ?_⟩
  unfold size
  linarith

/-- What is found with a count of digits is read back and has no more digits. -/
theorem neighbour_found (hm : 0 < m) (hfinite : IsFinite (finite false m e))
    (h : neighbour? m e count = some decimal) :
    ofScientific false decimal.digits decimal.exponent = finite false m e ∧
      decimal.digits ≤ 10 ^ count ∧ decimal.exponent = leadingPlace m e - count + 1 := by
  obtain ⟨a, b, hb, hquotient, hneighbour⟩ := neighbour_spec m e count
  obtain ⟨-, hlead⟩ := leading_place_spec hm hfinite
  have hdigits : a / b + 1 ≤ 10 ^ count := by
    rw [Nat.succ_le_iff, Nat.div_lt_iff_lt_mul hb]
    have hcast : (a / b : ℚ) < (10 : ℚ) ^ count := by
      have hplace : (count : Int) + (leadingPlace m e - count + 1) = leadingPlace m e + 1 := by ring
      rw [hquotient, div_lt_iff₀ (by positivity), ← zpow_natCast, ← zpow_add₀ (by norm_num), hplace]
      exact hlead
    rw [div_lt_iff₀ (by exact_mod_cast hb)] at hcast
    exact_mod_cast hcast
  obtain ⟨-, hnearest⟩ := nearest_bounds a b
  rw [hneighbour] at h
  split_ifs at h with hnear hfar hfar
  all_goals
    obtain rfl := Option.some.inj h
    refine ⟨beq_iff_eq.1 ‹_›, ?_, rfl⟩
    dsimp only
    omega

/-- A decimal that is read as a number other than zero is neither zero nor above `overflow`. -/
theorem size_of_read (hm : 0 < m) (hfinite : IsFinite (finite false m e))
    (hread : ofScientific false decimal.digits decimal.exponent = finite false m e) :
    0 < decimal.digits ∧ decimal.size ≤ overflow := by
  obtain ⟨n, d, hd, hratio, hround⟩ := of_scientific_eq false decimal.digits decimal.exponent
  rw [hround] at hread
  have hn : n ≠ 0 := by
    rintro rfl
    injection hread with _ hzero
    exact hm.ne hzero
  constructor
  · rw [Nat.pos_iff_ne_zero]
    intro hzero
    rw [hzero, Nat.cast_zero, zero_mul, div_eq_zero_iff] at hratio
    rcases hratio with h | h
    · exact hn (by exact_mod_cast h)
    · exact hd.ne' (by exact_mod_cast h)
  · rw [size, ← hratio]
    refine quotient_le_overflow false hd ?_
    rw [hread]
    exact hfinite

/-! ## The shortest decimal -/

/-- Zeros at the end of the digits are dropped without changing the decimal. -/
theorem trim_zeros_spec (fuel : Nat) (h : 0 < decimal.digits) :
    (trimZeros fuel decimal).size = decimal.size ∧
      0 < (trimZeros fuel decimal).digits ∧ (trimZeros fuel decimal).digits ≤ decimal.digits ∧
      decimal.exponent ≤ (trimZeros fuel decimal).exponent := by
  fun_induction trimZeros fuel decimal with
  | case1 decimal => exact ⟨rfl, h, le_rfl, le_rfl⟩
  | case2 fuel decimal hzero ih =>
    obtain ⟨hsize, hpos, hdigits, hexponent⟩ := ih (by dsimp only; omega)
    dsimp only at hdigits hexponent
    refine ⟨hsize.trans ?_, hpos, by omega, by omega⟩
    have hten : decimal.digits / 10 * 10 = decimal.digits := by omega
    unfold size
    dsimp only
    rw [zpow_add_one₀ (by norm_num)]
    calc ((decimal.digits / 10 : Nat) : ℚ) * ((10 : ℚ) ^ decimal.exponent * 10)
        = ((decimal.digits / 10 * 10 : Nat) : ℚ) * (10 : ℚ) ^ decimal.exponent := by
          push_cast
          ring
      _ = decimal.digits * (10 : ℚ) ^ decimal.exponent := by rw [hten]
  | case3 fuel decimal hdone => exact ⟨rfl, h, le_rfl, le_rfl⟩

/-- No number begins below the place of `10^-325`. -/
theorem leading_place_gt (hm : 0 < m) (hfinite : IsFinite (finite false m e)) :
    -325 < leadingPlace m e + 1 := by
  refine (zpow_lt_zpow_iff_right₀ (show (1 : ℚ) < 10 by norm_num)).1 ?_
  calc (10 : ℚ) ^ (-325 : Int) ≤ (2 : ℚ) ^ (-1074 : Int) := ten_zpow_le (by omega) (by omega)
    _ ≤ m * (2 : ℚ) ^ e := (magnitude_bounds hm hfinite).1
    _ < (10 : ℚ) ^ (leadingPlace m e + 1) := (leading_place_spec hm hfinite).2

/-- The shortest decimal of a number has at most seventeen digits, does not begin below the place of
`10^-341` and does not exceed `overflow`. With seventeen digits it is farther above the greatest
number by no more than half of its last place. -/
theorem shortest_spec (hm : 0 < m) (hfinite : IsFinite (finite false m e)) :
    0 < (shortest m e).digits ∧ (shortest m e).digits ≤ 10 ^ 17 ∧ -341 ≤ (shortest m e).exponent ∧
      (shortest m e).size ≤ overflow ∧
      ((shortest m e).digits ≤ 10 ^ 16 ∨
        (shortest m e).size ≤ greatest + (10 : ℚ) ^ (shortest m e).exponent / 2) := by
  obtain ⟨longest, hlongest, hnearer⟩ := neighbour_seventeen hm hfinite
  obtain ⟨decimal, hfound⟩ : ∃ decimal,
      ((List.range 17).findSome? fun i => neighbour? m e (i + 1)) = some decimal := by
    rw [← Option.isSome_iff_exists, List.findSome?_isSome_iff]
    exact ⟨16, by decide, by rw [hlongest]; rfl⟩
  obtain ⟨i, hi, hneighbour⟩ := List.exists_of_findSome?_eq_some hfound
  have hcount : i < 17 := List.mem_range.1 hi
  obtain ⟨hread, hdigits, hexponent⟩ := neighbour_found hm hfinite hneighbour
  obtain ⟨hpos, hoverflow⟩ := size_of_read hm hfinite hread
  obtain ⟨hsize, htrimmed, hless, hmore⟩ := trim_zeros_spec 17 hpos
  have hshortest : shortest m e = trimZeros 17 decimal := by
    unfold shortest
    rw [hfound]
    rfl
  rw [hshortest]
  refine ⟨htrimmed, hless.trans (hdigits.trans ?_), ?_, ?_, ?_⟩
  · exact Nat.pow_le_pow_right (by norm_num) hcount
  · have hplace := leading_place_gt hm hfinite
    omega
  · rw [hsize]
    exact hoverflow
  · rcases Nat.lt_or_ge i 16 with hshort | hlong
    · exact Or.inl (hless.trans (hdigits.trans (Nat.pow_le_pow_right (by norm_num) hshort)))
    · obtain rfl : i = 16 := by omega
      obtain rfl := Option.some.inj (hlongest.symm.trans hneighbour)
      refine Or.inr ?_
      rw [hsize]
      have hsmall := size_le_greatest hfinite
      rw [Binary64.size] at hsmall
      have hplace : (10 : ℚ) ^ longest.exponent ≤
          (10 : ℚ) ^ (trimZeros 17 longest).exponent :=
        zpow_le_zpow_right₀ (by norm_num) hmore
      linarith

/-! ## Shortest decimals as products -/

/-- A limit for the digits of a shortest decimal whose exponent is not negative. -/
def digitLimit (exponent : Nat) : Nat :=
  min (10 ^ 17) (min (overflow / 10 ^ exponent)
    (max (10 ^ 16) ((2 * greatest + 10 ^ exponent) / (2 * 10 ^ exponent))))

/-- Whether a power of ten is a finite number that is not less than one, and is not multiplied out
of the range by the digits at its limit. -/
def powerFits (exponent : Nat) : Bool :=
  match ofScientific false 1 exponent with
  | finite _ m e =>
    decide (m < 2 ^ 53 ∧ leastExponent ≤ e ∧ e ≤ greatestExponent ∧
      (e = leastExponent ∨ 2 ^ 52 ≤ m)) &&
    decide ((magnitude m e).2 ≤ (magnitude m e).1) &&
    decide (significant (digitLimit exponent) * (magnitude m e).1 < overflow * (magnitude m e).2)
  | _ => false

/-- All powers of ten fit that are finite numbers. -/
theorem power_fits_of_lt : ∀ exponent < 309, powerFits exponent = true := by decide +kernel

/-- What `powerFits` tells of a power of ten. -/
theorem power_spec (h : n < 309) :
    (ofScientific false 1 n).IsFinite ∧ 1 ≤ (ofScientific false 1 n).size ∧
      significant (digitLimit n) * (ofScientific false 1 n).size < overflow := by
  have hfits := power_fits_of_lt n h
  unfold powerFits at hfits
  cases hpower : ofScientific false 1 n with
  | finite negative m e =>
    rw [hpower] at hfits
    simp only [Bool.and_eq_true, decide_eq_true_eq] at hfits
    obtain ⟨⟨hfinite, hone⟩, hless⟩ := hfits
    have hpos : (0 : ℚ) < (magnitude m e).2 := by exact_mod_cast magnitude_denominator m e
    refine ⟨hfinite, ?_, ?_⟩
    · rw [Binary64.size, ← magnitude_quotient, one_le_div hpos]
      exact_mod_cast hone
    · rw [Binary64.size, ← magnitude_quotient, ← mul_div_assoc, div_lt_iff₀ hpos]
      exact_mod_cast hless
  | infinite negative => rw [hpower] at hfits; cases hfits
  | notANumber => rw [hpower] at hfits; cases hfits

/-- The digits of a shortest decimal do not exceed their limit. -/
theorem shortest_digits_le (hm : 0 < m) (hfinite : IsFinite (finite false m e))
    (h : (shortest m e).exponent = n) : (shortest m e).digits ≤ digitLimit n := by
  obtain ⟨-, hdigits, -, hsize, hlong⟩ := shortest_spec hm hfinite
  rw [Decimal.size, h, zpow_natCast] at hsize hlong
  refine le_min hdigits (le_min ?_ (le_max_iff.2 (hlong.imp_right fun hnear => ?_)))
  · rw [Nat.le_div_iff_mul_le (by positivity)]
    exact_mod_cast hsize
  · rw [Nat.le_div_iff_mul_le (by positivity)]
    have hcast : ((shortest m e).digits : ℚ) * (2 * 10 ^ n) ≤ 2 * greatest + 10 ^ n := by linarith
    exact_mod_cast hcast

/-- The exponent of a shortest decimal is that of a finite power of ten. -/
theorem shortest_exponent_lt (hm : 0 < m) (hfinite : IsFinite (finite false m e)) :
    (shortest m e).exponent < 309 := by
  obtain ⟨hpos, -, -, hsize, -⟩ := shortest_spec hm hfinite
  refine (zpow_lt_zpow_iff_right₀ (show (1 : ℚ) < 10 by norm_num)).1 ?_
  have hone : (1 : ℚ) ≤ (shortest m e).digits := by exact_mod_cast hpos
  have hlimit : overflow < 10 ^ 309 := by decide +kernel
  calc (10 : ℚ) ^ (shortest m e).exponent ≤ (shortest m e).size :=
        le_mul_of_one_le_left (by positivity) hone
    _ ≤ overflow := hsize
    _ < ((10 ^ 309 : Nat) : ℚ) := by exact_mod_cast hlimit
    _ = (10 : ℚ) ^ (309 : Int) := by
        rw [Nat.cast_pow]
        exact (zpow_natCast (10 : ℚ) 309).symm

/-- The digits of a shortest decimal, rounded, and its power of ten, rounded, have a product in the
range. -/
theorem shortest_mul (negative : Bool) (hm : 0 < m) (hfinite : IsFinite (finite false m e))
    (h : (shortest m e).exponent = n) :
    ((roundRatio negative (shortest m e).digits 1).mul (ofScientific false 1 n)).IsFinite := by
  have hlt := shortest_exponent_lt hm hfinite
  obtain ⟨-, hdigits, -⟩ := shortest_spec hm hfinite
  obtain ⟨hpower, hone, hless⟩ := power_spec (n := n) (by omega)
  have hshort : (shortest m e).digits < 2 ^ 64 := hdigits.trans_lt (by norm_num)
  refine is_finite_mul (is_finite_round_word negative hshort) hpower ?_
  rw [size_round_word negative hshort]
  refine lt_of_le_of_lt ?_ hless
  refine mul_le_mul_of_nonneg_right ?_ (zero_le_one.trans hone)
  exact_mod_cast significant_mono (shortest_digits_le hm hfinite h)

end CardBrowser.Decimal
