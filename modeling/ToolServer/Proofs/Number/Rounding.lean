/-
Which decimals stand for which floating-point numbers:

* `Magnitude.Rounds`: the interval of the rationals that round to a magnitude;
* `Magnitude.Standard`: what the magnitudes of floating-point numbers have in
  common;
* `Standard.eq_of_rounds`: nothing rounds to two of them;
* `shortest_rounds`: the shortest decimal rounds to the number that it is made
  for, seventeen digits being always enough;
* `magnitude_standard`, `eq_of_magnitude`: a floating-point number is known by
  its sign and its magnitude.
-/
import Mathlib.Tactic
import ToolServer.Number.Shortest

namespace ToolServer

/-! ### Powers -/

/-- A power with an integral exponent, as a quotient of natural powers. -/
lemma pow_toNat_div_pow_toNat {b : ℚ} (hb : b ≠ 0) (n : ℤ) :
    b ^ n.toNat / b ^ (-n).toNat = b ^ n := by
  rw [← zpow_natCast, ← zpow_natCast, ← zpow_sub₀ hb]
  congr 1
  omega

lemma decimalLength_pos (n : ℕ) : 0 < decimalLength n :=
  Nat.length_toDigits_pos

lemma lt_pow_decimalLength (n : ℕ) : n < 10 ^ decimalLength n :=
  (Nat.length_toDigits_le_iff (by decide) (decimalLength_pos n)).mp le_rfl

lemma pow_decimalLength_le {n : ℕ} (pos : 0 < n) : 10 ^ (decimalLength n - 1) ≤ n := by
  by_contra! less
  by_cases single : decimalLength n - 1 = 0
  · rw [single] at less
    omega
  · have := (Nat.length_toDigits_le_iff (by decide) (by omega)).mpr less
    rw [← decimalLength] at this
    omega

/-- The number that a decimal stands for. -/
def Decimal.value (d : Decimal) : ℚ :=
  d.digits * 10 ^ d.exponent

/-- Zeros at its end do not change what a decimal stands for. -/
lemma Decimal.value_stripped (d : Decimal) : d.stripped.value = d.value := by
  induction d using Decimal.stripped.induct with
  | case1 d h ih =>
      rw [stripped, dif_pos h, ih, value, value, zpow_add_one₀ (by norm_num)]
      have exact_quotient : ((d.digits / 10 : ℕ) : ℚ) * 10 = d.digits := by
        exact_mod_cast Nat.div_mul_cancel (Nat.dvd_of_mod_eq_zero h.2)
      rw [← exact_quotient]
      ring
  | case2 d h => rw [stripped, dif_neg h]

lemma Decimal.digits_stripped_pos {d : Decimal} (pos : 0 < d.digits) :
    0 < d.stripped.digits := by
  induction d using Decimal.stripped.induct with
  | case1 d h ih =>
      rw [stripped, dif_pos h]
      exact ih (Nat.div_pos (Nat.le_of_dvd pos (Nat.dvd_of_mod_eq_zero h.2)) (by norm_num))
  | case2 d h =>
      rw [stripped, dif_neg h]
      exact pos

namespace Magnitude

/-! ### Intervals -/

/-- The distance to the next larger number. -/
def spacing (x : Magnitude) : ℚ :=
  2 ^ x.q

/-- The number that a magnitude stands for. -/
def value (x : Magnitude) : ℚ :=
  x.m * x.spacing

/-- The lower end of the interval that rounds to the number. -/
def lower (x : Magnitude) : ℚ :=
  x.value - (if x.closeBelow then 1 / 4 else 1 / 2) * x.spacing

/-- The upper end of the interval that rounds to the number. -/
def upper (x : Magnitude) : ℚ :=
  x.value + 1 / 2 * x.spacing

/-- Whether a rational rounds to the number; the ends do if `m` is even. -/
def Rounds (x : Magnitude) (v : ℚ) : Prop :=
  if x.m % 2 = 0 then x.lower ≤ v ∧ v ≤ x.upper else x.lower < v ∧ v < x.upper

lemma spacing_pos (x : Magnitude) : 0 < x.spacing :=
  zpow_pos two_pos _

lemma scaled_eq (x : Magnitude) (quarters : ℕ) :
    x.scaled quarters = quarters * 2 ^ (x.q - 2).toNat := rfl

lemma den_eq (x : Magnitude) : x.den = 2 ^ (2 - x.q).toNat := rfl

lemma den_pos (x : Magnitude) : (0 : ℚ) < x.den := by
  rw [den_eq]
  positivity

/-- Quarters of the spacing, over the common denominator. -/
lemma scaled_div_den (x : Magnitude) (quarters : ℕ) :
    (x.scaled quarters : ℚ) / x.den = quarters / 4 * x.spacing := by
  have power : (2 : ℚ) ^ (x.q - 2).toNat / 2 ^ (2 - x.q).toNat = x.spacing / 4 := by
    have h := pow_toNat_div_pow_toNat (two_ne_zero (α := ℚ)) (x.q - 2)
    rw [neg_sub] at h
    rw [h, spacing, zpow_sub₀ two_ne_zero]
    norm_num
  rw [scaled_eq, den_eq]
  push_cast
  rw [mul_div_assoc, power]
  ring

lemma num_div_den (x : Magnitude) : (x.num : ℚ) / x.den = x.value := by
  rw [num, scaled_div_den, value]
  push_cast
  ring

lemma high_div_den (x : Magnitude) : (x.high : ℚ) / x.den = x.upper := by
  rw [high, scaled_div_den, upper, value]
  push_cast
  ring

lemma low_div_den {x : Magnitude} (pos : 0 < x.m) : (x.low : ℚ) / x.den = x.lower := by
  rw [low, scaled_div_den, lower, value]
  cases x.closeBelow
  · rw [if_neg Bool.false_ne_true, if_neg Bool.false_ne_true, Nat.cast_sub (by omega)]
    push_cast
    ring
  · rw [if_pos rfl, if_pos rfl, Nat.cast_sub (by omega)]
    push_cast
    ring

/-- What `admits` computes in natural numbers. -/
lemma admits_iff_rounds {x : Magnitude} (pos : 0 < x.m) {a scale : ℕ} (hscale : 0 < scale) :
    x.admits a scale = true ↔ x.Rounds (a / (scale * x.den)) := by
  have hs : (0 : ℚ) < scale := by exact_mod_cast hscale
  have hd := x.den_pos
  have above : x.upper = x.high * scale / (scale * x.den) := by
    rw [← high_div_den, mul_comm (x.high : ℚ), mul_div_mul_left _ _ hs.ne']
  have below : x.lower = x.low * scale / (scale * x.den) := by
    rw [← low_div_den pos, mul_comm (x.low : ℚ), mul_div_mul_left _ _ hs.ne']
  have hsd : (0 : ℚ) < scale * x.den := mul_pos hs hd
  rw [admits, Rounds, above, below]
  split_ifs
  · rw [Bool.and_eq_true, decide_eq_true_iff, decide_eq_true_iff,
      div_le_div_iff_of_pos_right hsd, div_le_div_iff_of_pos_right hsd]
    norm_cast
  · rw [Bool.and_eq_true, decide_eq_true_iff, decide_eq_true_iff,
      div_lt_div_iff_of_pos_right hsd, div_lt_div_iff_of_pos_right hsd]
    norm_cast

/-- What lies well inside the interval rounds to the number. -/
lemma Rounds.of_lt {x : Magnitude} {v : ℚ} (lower : x.lower < v) (upper : v < x.upper) :
    x.Rounds v := by
  rw [Rounds]
  split_ifs
  · exact ⟨lower.le, upper.le⟩
  · exact ⟨lower, upper⟩

lemma Rounds.le {x : Magnitude} {v : ℚ} (h : x.Rounds v) : x.lower ≤ v ∧ v ≤ x.upper := by
  rw [Rounds] at h
  split_ifs at h
  · exact h
  · exact ⟨h.1.le, h.2.le⟩

lemma Rounds.lt_of_odd {x : Magnitude} {v : ℚ} (h : x.Rounds v) (odd : x.m % 2 = 1) :
    x.lower < v ∧ v < x.upper := by
  rwa [Rounds, if_neg (by omega)] at h

/-! ### Magnitudes of floating-point numbers -/

/-- A magnitude of 53 bits, which has fewer only if the spacing is the smallest
one, and which lies closer to the next smaller one only where the spacing
changes. -/
structure Standard (x : Magnitude) : Prop where
  pos : 0 < x.m
  lt : x.m < 2 ^ 53
  least : -1074 ≤ x.q
  full : -1074 < x.q → 2 ^ 52 ≤ x.m
  close : x.closeBelow = true ↔ x.m = 2 ^ 52 ∧ -1074 < x.q

/-- Two standard magnitudes with the same significand and exponent are equal. -/
lemma Standard.ext {x y : Magnitude} (hx : x.Standard) (hy : y.Standard) (m : x.m = y.m)
    (q : x.q = y.q) : x = y := by
  have close : x.closeBelow = y.closeBelow := by
    rw [Bool.eq_iff_iff, hx.close, hy.close, m, q]
  cases x
  cases y
  simp_all

/-- The interval begins at most half the spacing below the number. -/
lemma le_lower (x : Magnitude) : (x.m - 1 / 2) * x.spacing ≤ x.lower := by
  have half : (if x.closeBelow then (1 / 4 : ℚ) else 1 / 2) ≤ 1 / 2 := by
    split_ifs <;> norm_num
  have := x.spacing_pos
  rw [lower, value]
  nlinarith

/-- Of two magnitudes with the same spacing the interval of the smaller one ends
where that of the larger one begins, or before; the common end belongs to one of
them only. -/
lemma upper_le_lower_of_lt {x y : Magnitude} (hq : x.q = y.q) (hm : x.m < y.m) :
    x.upper ≤ y.lower ∧ (x.upper = y.lower → x.m % 2 = 1 ∨ y.m % 2 = 1) := by
  have hpos := x.spacing_pos
  have next : (x.m : ℚ) + 1 ≤ y.m := by exact_mod_cast hm
  have lower : (y.m - 1 / 2) * x.spacing ≤ y.lower := by
    rw [spacing, hq]
    exact y.le_lower
  have upper : x.upper = (x.m + 1 / 2) * x.spacing := by
    rw [Magnitude.upper, value]
    ring
  refine ⟨by nlinarith, ?_⟩
  intro eq
  have adjacent : (y.m : ℚ) ≤ x.m + 1 := by
    by_contra more
    nlinarith
  have : y.m ≤ x.m + 1 := by exact_mod_cast adjacent
  omega

/-- The same of two magnitudes with different spacings. -/
lemma Standard.upper_le_lower_of_lt {x y : Magnitude} (hx : x.Standard) (hy : y.Standard)
    (hq : x.q < y.q) :
    x.upper ≤ y.lower ∧ (x.upper = y.lower → x.m % 2 = 1 ∨ y.m % 2 = 1) := by
  have hpos := x.spacing_pos
  have far : -1074 < y.q := lt_of_le_of_lt hx.least hq
  have wider : 2 * x.spacing ≤ y.spacing := by
    rw [spacing, spacing, ← zpow_one_add₀ two_ne_zero]
    exact zpow_le_zpow_right₀ one_le_two (by omega)
  have largest : (x.m : ℚ) + 1 ≤ 2 ^ 53 := by exact_mod_cast hx.lt
  have upper : x.upper = (x.m + 1 / 2) * x.spacing := by
    rw [Magnitude.upper, value]
    ring
  by_cases hym : y.m = 2 ^ 52
  · -- the next smaller number is closer, and is reached by the largest `m`, an odd one
    have lower : y.lower = (2 ^ 52 - 1 / 4) * y.spacing := by
      rw [Magnitude.lower, value, hy.close.mpr ⟨hym, far⟩, if_pos rfl, hym]
      push_cast
      ring
    refine ⟨by nlinarith, fun eq => .inl ?_⟩
    have last : (2 : ℚ) ^ 53 ≤ x.m + 1 := by
      by_contra less
      nlinarith
    have : 2 ^ 53 ≤ x.m + 1 := by exact_mod_cast last
    have := hx.lt
    omega
  · have more : (2 : ℚ) ^ 52 + 1 ≤ y.m := by
      have := hy.full far
      exact_mod_cast (by omega : 2 ^ 52 + 1 ≤ y.m)
    have lower := y.le_lower
    have lt : x.upper < y.lower := by nlinarith
    exact ⟨lt.le, fun eq => absurd eq lt.ne⟩

/-- What rounds to one number does not round to a larger one. -/
lemma Standard.not_rounds_of_less {x y : Magnitude} (hx : x.Standard) (hy : y.Standard)
    (less : x.q < y.q ∨ (x.q = y.q ∧ x.m < y.m)) {v : ℚ} (rx : x.Rounds v) : ¬ y.Rounds v := by
  intro ry
  obtain ⟨le, shared⟩ : x.upper ≤ y.lower ∧ (x.upper = y.lower → x.m % 2 = 1 ∨ y.m % 2 = 1) := by
    rcases less with hq | ⟨hq, hm⟩
    · exact hx.upper_le_lower_of_lt hy hq
    · exact Magnitude.upper_le_lower_of_lt hq hm
  have eq : x.upper = y.lower := le_antisymm le (ry.le.1.trans rx.le.2)
  rcases shared eq with odd | odd
  · exact absurd (rx.lt_of_odd odd).2 (not_lt.mpr (eq ▸ ry.le.1))
  · exact absurd (ry.lt_of_odd odd).1 (not_lt.mpr (eq ▸ rx.le.2))

/-- **Nothing rounds to two numbers.** -/
theorem Standard.eq_of_rounds {x y : Magnitude} (hx : x.Standard) (hy : y.Standard) {v : ℚ}
    (rx : x.Rounds v) (ry : y.Rounds v) : x = y := by
  rcases lt_trichotomy x.q y.q with lt | eq | gt
  · exact absurd ry (hx.not_rounds_of_less hy (.inl lt) rx)
  · rcases lt_trichotomy x.m y.m with lt | same | gt
    · exact absurd ry (hx.not_rounds_of_less hy (.inr ⟨eq, lt⟩) rx)
    · exact hx.ext hy same eq
    · exact absurd rx (hy.not_rounds_of_less hx (.inr ⟨eq.symm, gt⟩) ry)
  · exact absurd rx (hy.not_rounds_of_less hx (.inl gt) ry)

/-! ### Seventeen digits are enough -/

/-- The number itself lies well inside its interval: a grid of which more than
`10^16` steps go into the number has a point there. -/
lemma Standard.rounds_of_fine {x : Magnitude} (hx : x.Standard) {step : ℚ} {below : ℕ}
    (fine : step * 10 ^ 16 ≤ x.value) (le : below * step ≤ x.value)
    (lt : x.value < (below + 1) * step) :
    x.Rounds (below * step) ∨ x.Rounds ((below + 1) * step) := by
  have hpos := x.spacing_pos
  have largest : (x.m : ℚ) ≤ 2 ^ 53 := by exact_mod_cast hx.lt.le
  have upper : x.upper = x.value + 1 / 2 * x.spacing := rfl
  have narrow : step * 10 ^ 16 ≤ 2 ^ 53 * x.spacing := by
    rw [value] at fine
    nlinarith
  by_cases near : x.value - below * step ≤ step / 2
  · refine .inl (.of_lt ?_ (by linarith))
    rw [lower]
    split_ifs with close
    · have : x.m = 2 ^ 52 := (hx.close.mp close).1
      rw [value, this] at fine
      push_cast at fine
      linarith
    · linarith
  · refine .inr (.of_lt ?_ (by linarith))
    have lower : x.lower ≤ x.value := by
      rw [Magnitude.lower]
      have : 0 ≤ (if x.closeBelow then (1 / 4 : ℚ) else 1 / 2) := by split_ifs <;> norm_num
      nlinarith
    linarith

/-- The steps of a grid with last place `10^p`. -/
lemma rounds_on_grid {x : Magnitude} (pos : 0 < x.m) (p : ℤ) (k : ℕ) :
    x.admits (k * (x.den * 10 ^ p.toNat)) (10 ^ (-p).toNat) = true
      ↔ x.Rounds (k * 10 ^ p) := by
  have hd := x.den_pos
  rw [admits_iff_rounds pos (by positivity)]
  have same : ((k * (x.den * 10 ^ p.toNat) : ℕ) : ℚ) / ((10 ^ (-p).toNat : ℕ) * x.den)
      = k * 10 ^ p := by
    rw [← pow_toNat_div_pow_toNat (by norm_num : (10 : ℚ) ≠ 0) p]
    push_cast
    field_simp
  rw [same]

/-- What is found on a grid rounds to the number. -/
lemma rounds_of_onGrid? {x : Magnitude} (pos : 0 < x.m) {p : ℤ} {d : Decimal}
    (h : x.onGrid? p = some d) : x.Rounds d.value ∧ 0 < d.digits := by
  obtain ⟨k, hk, rfl⟩ := Option.map_eq_some_iff.mp h
  have found := List.find?_some hk
  rw [Bool.and_eq_true, decide_eq_true_iff] at found
  exact ⟨(rounds_on_grid pos p k).mp found.2, found.1⟩

/-- A grid with more than `10^16` steps below the number holds a decimal for it. -/
lemma Standard.onGrid?_isSome {x : Magnitude} (hx : x.Standard) {p : ℤ}
    (fine : 10 ^ p * 10 ^ 16 ≤ x.value) : (x.onGrid? p).isSome = true := by
  have hd := x.den_pos
  let up : ℕ := 10 ^ (-p).toNat
  let unit : ℕ := x.den * 10 ^ p.toNat
  let below : ℕ := x.num * up / unit
  have hup : (0 : ℚ) < up := by positivity
  have hunit : 0 < unit := by
    have : 0 < x.den := by exact_mod_cast hd
    positivity
  -- a count of units is a count of steps
  have steps : ∀ a : ℚ, a * 10 ^ p = a * unit / (x.den * up) := fun a => by
    rw [← pow_toNat_div_pow_toNat (by norm_num : (10 : ℚ) ≠ 0) p]
    push_cast [unit, up]
    field_simp
  have number : x.value = x.num * up / (x.den * up) := by
    rw [← num_div_den, mul_div_mul_right _ _ hup.ne']
  have le : below * 10 ^ p ≤ x.value := by
    rw [steps, number, div_le_div_iff_of_pos_right (mul_pos hd hup)]
    exact_mod_cast Nat.div_mul_le_self (x.num * up) unit
  have lt : x.value < (below + 1) * 10 ^ p := by
    rw [steps, number, div_lt_div_iff_of_pos_right (mul_pos hd hup)]
    have := Nat.lt_mul_div_succ (x.num * up) hunit
    rw [mul_comm unit] at this
    exact_mod_cast this
  have positive : 0 < below := by
    refine Nat.pos_of_ne_zero ?_
    intro zero
    have : (0 : ℚ) < 10 ^ p := zpow_pos (by norm_num) p
    rw [zero] at lt
    push_cast at lt
    linarith
  rw [onGrid?]
  rw [Option.isSome_map, List.find?_isSome]
  rcases hx.rounds_of_fine fine le lt with rounds | rounds
  · refine ⟨below, by split_ifs <;> simp [below, unit, up], ?_⟩
    rw [Bool.and_eq_true, decide_eq_true_iff]
    exact ⟨positive, (rounds_on_grid hx.pos p below).mpr rounds⟩
  · refine ⟨below + 1, by split_ifs <;> simp [below, unit, up], ?_⟩
    rw [Bool.and_eq_true, decide_eq_true_iff]
    refine ⟨Nat.succ_pos _, (rounds_on_grid hx.pos p (below + 1)).mpr ?_⟩
    push_cast
    exact rounds

/-- The first decimal digit of the number stands at `leading` or above. -/
lemma Standard.pow_leading_le {x : Magnitude} (hx : x.Standard) : 10 ^ x.leading ≤ x.value := by
  have hd : 0 < x.den := by exact_mod_cast x.den_pos
  have hn : 0 < x.num := by
    have := hx.pos
    rw [num, scaled_eq]
    positivity
  rw [← num_div_den, le_div_iff₀ x.den_pos]
  rw [leading]
  split_ifs with whole
  · have digits : 10 ^ (decimalLength (x.num / x.den) - 1) * x.den ≤ x.num := by
      calc 10 ^ (decimalLength (x.num / x.den) - 1) * x.den ≤ x.num / x.den * x.den :=
            Nat.mul_le_mul_right _ (pow_decimalLength_le (Nat.div_pos whole hd))
        _ ≤ x.num := Nat.div_mul_le_self _ _
    have exponent : (decimalLength (x.num / x.den) : ℤ) - 1
        = (decimalLength (x.num / x.den) - 1 : ℕ) := by
      have := decimalLength_pos (x.num / x.den)
      omega
    rw [exponent, zpow_natCast]
    exact_mod_cast digits
  · -- the number is below one, and `ceiling` is its reciprocal, rounded up
    obtain ⟨ceiling, hceiling⟩ : ∃ c, c = (x.den + x.num - 1) / x.num := ⟨_, rfl⟩
    have covers : x.den ≤ ceiling * x.num := by
      have := Nat.lt_div_mul_add (a := x.den + x.num - 1) hn
      rw [← hceiling] at this
      omega
    have digits : ceiling ≤ 10 ^ decimalLength (ceiling - 1) := by
      have := lt_pow_decimalLength (ceiling - 1)
      omega
    have reciprocal : x.den ≤ 10 ^ decimalLength (ceiling - 1) * x.num := by
      calc x.den ≤ ceiling * x.num := covers
        _ ≤ 10 ^ decimalLength (ceiling - 1) * x.num := Nat.mul_le_mul_right _ digits
    rw [← hceiling, zpow_neg, zpow_natCast, inv_mul_le_iff₀ (by positivity)]
    exact_mod_cast reciprocal

/-- **The shortest decimal rounds to the number that it is made for.** -/
theorem Standard.shortest_rounds {x : Magnitude} (hx : x.Standard) :
    x.Rounds x.shortest.value ∧ 0 < x.shortest.digits := by
  have fine : 10 ^ (x.leading - (16 : ℕ)) * 10 ^ 16 ≤ x.value := by
    calc (10 : ℚ) ^ (x.leading - (16 : ℕ)) * 10 ^ 16 = 10 ^ x.leading := by
          rw [← zpow_natCast (10 : ℚ) 16, ← zpow_add₀ (by norm_num)]
          congr 1
          omega
      _ ≤ x.value := hx.pow_leading_le
  have seventeen : ((List.range maxDigits).findSome?
      fun n : ℕ => x.onGrid? (x.leading - n)).isSome = true :=
    List.findSome?_isSome_iff.mpr
      ⟨16, List.mem_range.mpr (by decide : 16 < maxDigits), hx.onGrid?_isSome fine⟩
  obtain ⟨d, hd⟩ := Option.isSome_iff_exists.mp seventeen
  obtain ⟨n, -, found⟩ := List.exists_of_findSome?_eq_some hd
  obtain ⟨rounds, pos⟩ := rounds_of_onGrid? hx.pos found
  have same : x.shortest = d.stripped := by
    rw [shortest]
    simp only [hd, Option.getD_some]
  rw [same, Decimal.value_stripped]
  exact ⟨rounds, Decimal.digits_stripped_pos pos⟩

end Magnitude

/-! ### Floating-point numbers -/

namespace Binary64

/-! The three fields of the bits. -/

lemma biased_eq (x : Binary64) : x.biased = x.bits.toNat / 2 ^ 52 % 2 ^ 11 := by
  rw [biased, UInt64.toNat_and, UInt64.toNat_shiftRight, Nat.shiftRight_eq_div_pow]
  exact Nat.and_two_pow_sub_one_eq_mod _ 11

lemma fraction_eq (x : Binary64) : x.fraction = x.bits.toNat % 2 ^ 52 := by
  rw [fraction, UInt64.toNat_and]
  exact Nat.and_two_pow_sub_one_eq_mod _ 52

lemma isNegative_iff (x : Binary64) : x.isNegative = true ↔ x.bits.toNat / 2 ^ 63 = 1 := by
  rw [isNegative, beq_iff_eq, ← UInt64.toNat_inj, UInt64.toNat_shiftRight,
    Nat.shiftRight_eq_div_pow]
  exact Iff.rfl

lemma isZero_iff (x : Binary64) : x.isZero = true ↔ x.bits.toNat % 2 ^ 63 = 0 := by
  rw [isZero, beq_iff_eq, ← UInt64.toNat_inj, UInt64.toNat_shiftLeft, Nat.shiftLeft_eq]
  have shifted : x.bits.toNat * 2 ^ 1 % 2 ^ 64 = 0 ↔ x.bits.toNat % 2 ^ 63 = 0 := by omega
  exact shifted

lemma fraction_lt (x : Binary64) : x.fraction < 2 ^ 52 :=
  x.fraction_eq ▸ Nat.mod_lt _ (by positivity)

/-- The bits without the sign. -/
lemma unsigned_eq (x : Binary64) :
    x.bits.toNat % 2 ^ 63 = x.biased * 2 ^ 52 + x.fraction := by
  rw [biased_eq, fraction_eq, show 2 ^ 63 = 2 ^ 52 * 2 ^ 11 from rfl, Nat.mod_mul]
  ring

/-- The magnitude of a finite number that is not zero is a standard one. -/
lemma magnitude_standard {x : Binary64} (nonzero : x.isZero = false) :
    x.magnitude.Standard := by
  have hf := x.fraction_lt
  have hz : x.biased * 2 ^ 52 + x.fraction ≠ 0 := fun zero => by
    rw [x.isZero_iff.mpr (x.unsigned_eq.trans zero)] at nonzero
    exact Bool.noConfusion nonzero
  rw [magnitude]
  split_ifs with subnormal
  · constructor
    all_goals dsimp only
    all_goals first | omega | simp
  · constructor
    all_goals simp only [Bool.and_eq_true, decide_eq_true_iff]
    all_goals omega

/-- A number is known by its sign and the other bits. -/
lemma eq_of_unsigned {x y : Binary64} (sign : x.isNegative = y.isNegative)
    (unsigned : x.bits.toNat % 2 ^ 63 = y.bits.toNat % 2 ^ 63) : x = y := by
  have hsign : x.bits.toNat / 2 ^ 63 = 1 ↔ y.bits.toNat / 2 ^ 63 = 1 := by
    rw [← isNegative_iff, ← isNegative_iff, sign]
  have := x.bits.toNat_lt
  have := y.bits.toNat_lt
  have bits : x.bits = y.bits := UInt64.toNat_inj.mp (by omega)
  cases x
  cases y
  congr

/-- A finite number that is not zero is known by its sign and its magnitude. -/
lemma eq_of_magnitude {x y : Binary64} (sign : x.isNegative = y.isNegative)
    (same : x.magnitude = y.magnitude) : x = y := by
  have hx := x.fraction_lt
  have hy := y.fraction_lt
  have fields : x.biased = y.biased ∧ x.fraction = y.fraction := by
    have hm := congrArg Magnitude.m same
    have hq := congrArg Magnitude.q same
    simp only [magnitude] at hm hq
    split_ifs at hm hq
    all_goals dsimp only at hm hq
    all_goals omega
  refine eq_of_unsigned sign ?_
  rw [unsigned_eq, unsigned_eq, fields.1, fields.2]

end Binary64

end ToolServer
