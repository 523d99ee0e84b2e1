import AppDef.Proofs.Number.Interval

namespace AppDef.Number

variable {m count : ℕ} {e place : ℤ} {r : ℚ} {tie : Tie} {d : Decimal} {p : Parts}

theorem Decimal.size_strip (fuel : ℕ) (d : Decimal) : (d.strip fuel).size = d.size := by
  induction fuel generalizing d with
  | zero => rfl
  | succ fuel ih =>
    unfold strip
    split_ifs with h
    · obtain ⟨c, hc⟩ : 10 ∣ d.coefficient := by
        rw [Bool.and_eq_true] at h
        exact Nat.dvd_of_mod_eq_zero (decide_eq_true_iff.mp h.2)
      rw [ih, size, size, hc, Nat.mul_div_cancel_left c (by decide), zpow_add_one₀ (by norm_num)]
      push_cast
      ring
    · rfl

theorem Decimal.exponent_le_strip (fuel : ℕ) (d : Decimal) :
    d.exponent ≤ (d.strip fuel).exponent := by
  induction fuel generalizing d with
  | zero => exact le_refl _
  | succ fuel ih =>
    unfold strip
    split_ifs with h
    · exact (Int.le_add_one (le_refl _)).trans (ih _)
    · exact le_refl _

theorem Decimal.eq_of_fields {d d' : Decimal} (hcount : d.coefficient = d'.coefficient)
    (hexponent : d.exponent = d'.exponent) : d = d' := by
  cases d
  cases hcount
  cases hexponent
  rfl

theorem Decimal.exists_size_of_nonneg (h : 0 ≤ d.exponent) : ∃ n : ℕ, d.size = n := by
  obtain ⟨k, hk⟩ := Int.eq_ofNat_of_zero_le h
  refine ⟨d.coefficient * 10 ^ k, ?_⟩
  rw [Decimal.size, hk]
  exact_mod_cast rfl

namespace Interval

theorem exponent_around (m : ℕ) (e : ℤ) : (2 : ℚ) ^ (around m e).exponent = 2 ^ e / 4 := by
  change (2 : ℚ) ^ (e - 2) = _
  rw [zpow_sub₀ (by norm_num)]
  norm_num

theorem center_around (m : ℕ) (e : ℤ) : (around m e).center = m * 2 ^ e := by
  rw [center, exponent_around, around]
  push_cast
  ring

theorem high_around (m : ℕ) (e : ℤ) : ((around m e).high : ℚ) = 4 * m + 2 := by
  simp [around]

theorem Contains.abs_sub_le (h : (around m e).Contains r) : |r - m * 2 ^ e| ≤ 2 ^ e / 2 := by
  have hpos : (0 : ℚ) < 2 ^ e := by positivity
  have hlow : (4 * m - 2 : ℚ) ≤ (around m e).low := by
    have : 4 * m ≤ (around m e).low + 2 := by
      simp only [around]
      split_ifs <;> omega
    have := (Nat.cast_le (α := ℚ)).mpr this
    push_cast at this
    linarith
  obtain ⟨hbottom, htop⟩ := h.bounds
  rw [exponent_around] at hbottom htop
  rw [high_around] at htop
  rw [abs_le]
  constructor <;> nlinarith

/-- The part of the interval that is sure to be read back. -/
theorem contains_of_abs_sub_lt (hm : 0 < m)
    (h : |r - m * 2 ^ e| < if m = 2 ^ 52 then 2 ^ e / 4 else 2 ^ e / 2) :
    (around m e).Contains r := by
  have hpos : (0 : ℚ) < 2 ^ e := by positivity
  have hlow : ((around m e).low : ℚ) ≤ 4 * m - if m = 2 ^ 52 then 1 else 2 := by
    have : (around m e).low + (if m = 2 ^ 52 then 1 else 2) ≤ 4 * m := by
      simp only [around, Nat.pow_eq, Bool.and_eq_true, decide_eq_true_eq]
      split_ifs <;> omega
    have := (Nat.cast_le (α := ℚ)).mpr this
    split_ifs at this ⊢ <;> push_cast at this <;> linarith
  rw [abs_lt] at h
  apply contains_of_lt
  · rw [exponent_around]
    split_ifs at h hlow <;> nlinarith
  · rw [exponent_around, high_around]
    split_ifs at h <;> nlinarith

/-- 0.30103 is the logarithm of two, and not much above it. -/
theorem pow_ten_le : ∀ t < 1024, Nat.pow 10 (t * 30103 / 100000) ≤ 10 * Nat.pow 2 t ∧
    Nat.pow 2 (t + 1) ≤ Nat.pow 10 (t * 30103 / 100000 + 2) := by
  decide +kernel

theorem le_pow_ten : ∀ s < 1075,
    Nat.pow 2 s ≤ 10 * Nat.pow 10 ((s * 30103 + 99999) / 100000) ∧
      2 * Nat.pow 10 ((s * 30103 + 99999) / 100000) ≤ 100 * Nat.pow 2 s := by
  decide +kernel

theorem magnitude_bounds_of_nonneg {t : ℕ} (h : t < 1024) :
    (10 : ℚ) ^ ((t : ℤ) * 30103 / 100000 - 1) ≤ 2 ^ (t : ℤ) ∧
      (2 : ℚ) ^ ((t : ℤ) + 1) ≤ 10 ^ ((t : ℤ) * 30103 / 100000 + 2) := by
  obtain ⟨hlow, hhigh⟩ := pow_ten_le t h
  have hguess : (t : ℤ) * 30103 / 100000 = (t * 30103 / 100000 : ℕ) := by
    push_cast
    rfl
  rw [hguess]
  generalize t * 30103 / 100000 = g at *
  rw [← Nat.cast_le (α := ℚ)] at hlow hhigh
  push_cast [Nat.pow_eq] at hlow hhigh
  constructor
  · rw [zpow_sub₀ (by norm_num), zpow_natCast, zpow_natCast, zpow_one]
    linarith
  · exact_mod_cast hhigh

theorem magnitude_bounds_of_nonpos {s : ℕ} (h : s < 1075) :
    (10 : ℚ) ^ (-(s : ℤ) * 30103 / 100000 - 1) ≤ 2 ^ (-(s : ℤ)) ∧
      (2 : ℚ) ^ (-(s : ℤ) + 1) ≤ 10 ^ (-(s : ℤ) * 30103 / 100000 + 2) := by
  obtain ⟨hlow, hhigh⟩ := le_pow_ten s h
  have hguess : -(s : ℤ) * 30103 / 100000 = -((s * 30103 + 99999) / 100000 : ℕ) := by omega
  rw [hguess]
  generalize (s * 30103 + 99999) / 100000 = k at *
  rw [← Nat.cast_le (α := ℚ)] at hlow hhigh
  push_cast [Nat.pow_eq] at hlow hhigh
  have htwo : (0 : ℚ) < 2 ^ s := by positivity
  have hten : (0 : ℚ) < 10 ^ k := by positivity
  constructor
  · rw [zpow_sub₀ (by norm_num), zpow_neg, zpow_neg, zpow_natCast, zpow_natCast, zpow_one,
      ← one_div, ← one_div, div_div,
      div_le_div_iff_of_pos_left (by norm_num) (by positivity) htwo]
    linarith
  · rw [zpow_add₀ (by norm_num), zpow_add₀ (by norm_num), zpow_neg, zpow_neg, zpow_natCast,
      zpow_natCast, zpow_one, ← div_eq_inv_mul, ← div_eq_inv_mul, div_le_div_iff₀ htwo hten]
    norm_num
    linarith

theorem magnitude_bounds {t : ℤ} (hleast : -1074 ≤ t) (hmost : t < 1024) :
    (10 : ℚ) ^ (t * 30103 / 100000 - 1) ≤ 2 ^ t ∧
      (2 : ℚ) ^ (t + 1) ≤ 10 ^ (t * 30103 / 100000 + 2) := by
  rcases Int.le_total 0 t with h | h
  · obtain ⟨n, rfl⟩ := Int.eq_ofNat_of_zero_le h
    exact magnitude_bounds_of_nonneg (by omega)
  · obtain ⟨s, hs⟩ := Int.eq_ofNat_of_zero_le (Int.neg_nonneg_of_nonpos h)
    obtain rfl : t = -(s : ℤ) := by omega
    exact magnitude_bounds_of_nonpos (by omega)

theorem reaches_iff (i : Interval) (place : ℤ) :
    (i.scale place i.middle 1).2 ≤ (i.scale place i.middle 1).1 ↔ (10 : ℚ) ^ place ≤ i.center := by
  rw [le_scale, Nat.cast_one, one_mul, center]

theorem log2_four_mul (hm : 0 < m) : (4 * m).log2 = m.log2 + 2 := by
  have hfour : 4 * m = 2 * (2 * m) := by omega
  rw [hfour, Nat.log2_two_mul (by omega), Nat.log2_two_mul (by omega)]

theorem log2_bounds (hm : 0 < m) (e : ℤ) : (2 : ℚ) ^ ((m.log2 : ℤ) + e) ≤ m * 2 ^ e ∧
    (m * 2 ^ e : ℚ) < 2 ^ ((m.log2 : ℤ) + e + 1) := by
  have htwo : (0 : ℚ) < 2 ^ e := by positivity
  constructor
  · rw [zpow_add₀ (by norm_num), zpow_natCast]
    gcongr
    exact_mod_cast Nat.log2_self_le (by omega)
  · rw [add_right_comm, zpow_add₀ (by norm_num)]
    gcongr
    exact_mod_cast Nat.lt_log2_self

theorem magnitude_around (hm : 0 < m) (hbits : m < 2 ^ 53) (hleast : -1074 ≤ e)
    (hmost : e ≤ 971) :
    (10 : ℚ) ^ ((around m e).magnitude - 1) ≤ m * 2 ^ e ∧
      (m * 2 ^ e : ℚ) < 10 ^ (around m e).magnitude := by
  have hlog : m.log2 < 53 := (Nat.log2_lt (by omega)).mpr hbits
  obtain ⟨hlow, hhigh⟩ := log2_bounds hm e
  obtain ⟨hguess, hguess'⟩ := magnitude_bounds (t := m.log2 + e) (by omega) (by omega)
  have hstart : (((around m e).middle.log2 : ℤ) + (around m e).exponent) * 30103 / 100000 =
      (m.log2 + e) * 30103 / 100000 := by
    have hmiddle : (around m e).middle.log2 = m.log2 + 2 := log2_four_mul hm
    rw [hmiddle]
    simp only [around]
    push_cast
    congr 2
    omega
  unfold magnitude
  dsimp only
  rw [hstart]
  generalize ((m.log2 : ℤ) + e) * 30103 / 100000 = g at *
  simp only [decide_eq_true_eq, reaches_iff, center_around]
  split_ifs with hmore hless
  · refine ⟨?_, hhigh.trans_le hguess'⟩
    convert hmore using 2
    omega
  · refine ⟨?_, not_le.mp hmore⟩
    convert hless using 2
    omega
  · exact ⟨hguess.trans hlow, not_le.mp hless⟩

end Interval

def Parts.interval (p : Parts) : Interval :=
  .around p.mantissa p.exponent

theorem Parts.center_interval (p : Parts) : p.interval.center = p.size :=
  Interval.center_around _ _

theorem Parts.size_eq_zero (hm : p.mantissa = 0) : p.size = 0 := by
  rw [size, hm, Nat.cast_zero, zero_mul]

theorem Parts.size_pos (hm : p.mantissa ≠ 0) : 0 < p.size := by
  have : (0 : ℚ) < p.mantissa := by exact_mod_cast Nat.pos_of_ne_zero hm
  unfold size
  positivity

theorem Parts.contains_size (hm : p.mantissa ≠ 0) : p.interval.Contains p.size := by
  apply Interval.contains_of_abs_sub_lt (Nat.pos_of_ne_zero hm)
  rw [size, sub_self, abs_zero]
  split_ifs <;> positivity

theorem Parts.not_contains_zero (hm : p.mantissa ≠ 0) : ¬ p.interval.Contains 0 := by
  intro h
  have hone : (1 : ℚ) ≤ p.mantissa := by exact_mod_cast Nat.pos_of_ne_zero hm
  have htwo : (0 : ℚ) < 2 ^ p.exponent := by positivity
  have := (abs_le.mp h.abs_sub_le).1
  nlinarith

theorem Parts.count_ne_zero (hm : p.mantissa ≠ 0)
    (h : p.interval.Contains (count * 10 ^ place)) : count ≠ 0 := by
  intro hcount
  rw [hcount, Nat.cast_zero, zero_mul] at h
  exact Parts.not_contains_zero hm h

theorem Parts.IsFloat.magnitude (hp : p.IsFloat) (hm : p.mantissa ≠ 0) :
    10 ^ (p.interval.magnitude - 1) ≤ p.size ∧ p.size < 10 ^ p.interval.magnitude :=
  Interval.magnitude_around (Nat.pos_of_ne_zero hm) hp.bits hp.least hp.most

/-- Seventeen digits come near enough to be read back. -/
theorem gridPoint?_seventeen (hp : p.IsFloat) (hm : p.mantissa ≠ 0) (tie : Tie) :
    p.interval.gridPoint? tie (p.interval.magnitude - (1 + 16 : ℕ)) =
      some (p.interval.rounded tie (p.interval.magnitude - (1 + 16 : ℕ))) := by
  have hnear := p.interval.abs_rounded_sub_le tie (p.interval.magnitude - (1 + 16 : ℕ))
  have hlow := (hp.magnitude hm).1
  have hunit : (10 : ℚ) ^ (p.interval.magnitude - 1) =
      10 ^ (p.interval.magnitude - (1 + 16 : ℕ)) * 10 ^ 16 := by
    rw [← zpow_natCast, ← zpow_add₀ (by norm_num)]
    congr 1
    push_cast
    omega
  have hbits : (p.mantissa : ℚ) ≤ 2 ^ 53 := by exact_mod_cast hp.bits.le
  have htwo : (0 : ℚ) < 2 ^ p.exponent := by positivity
  apply Interval.gridPoint?_of_holds_rounded
  rw [Interval.holds_iff]
  apply Interval.contains_of_abs_sub_lt (Nat.pos_of_ne_zero hm)
  rw [Parts.center_interval, Parts.size] at hnear
  refine lt_of_le_of_lt hnear ?_
  rw [Parts.size] at hlow
  generalize (10 : ℚ) ^ (p.interval.magnitude - (1 + 16 : ℕ)) = unit at *
  split_ifs with h
  · rw [hunit, h] at hlow
    push_cast at hlow
    linarith
  · nlinarith

theorem shortest_zero (hm : p.mantissa = 0) (tie : Tie) :
    shortest tie p.mantissa p.exponent = ⟨0, 0⟩ := by
  rw [shortest, if_pos hm]

/-- The shortest digits are a point of the coarsest grid that has one. -/
theorem isFirst_shortest (hp : p.IsFloat) (hm : p.mantissa ≠ 0) (tie : Tie) :
    ∃ d, p.interval.IsFirst tie p.interval.magnitude 1 d ∧
      shortest tie p.mantissa p.exponent = d.strip 17 := by
  refine ⟨_, Interval.isFirst_search (gridPoint?_seventeen hp hm tie), ?_⟩
  simp only [shortest, if_neg hm]
  rfl

theorem contains_of_isFirst (hd : p.interval.IsFirst tie p.interval.magnitude 1 d) :
    p.interval.Contains d.size := by
  rw [Decimal.size, ← Interval.holds_iff]
  exact Interval.holds_of_gridPoint? hd.found

theorem contains_shortest (hp : p.IsFloat) (hm : p.mantissa ≠ 0) (tie : Tie) :
    p.interval.Contains (shortest tie p.mantissa p.exponent).size := by
  obtain ⟨d, hd, hs⟩ := isFirst_shortest hp hm tie
  rw [hs, Decimal.size_strip]
  exact contains_of_isFirst hd

/-- A coarser grid has no point that is read back. -/
theorem not_contains_coarser (hp : p.IsFloat) (hm : p.mantissa ≠ 0)
    (hd : p.interval.IsFirst tie p.interval.magnitude 1 d) (hgt : d.exponent < place)
    (hle : 10 ^ place ≤ p.size) (count : ℕ) : ¬ p.interval.Contains (count * 10 ^ place) := by
  have hlt : place < p.interval.magnitude :=
    (zpow_lt_zpow_iff_right₀ (by norm_num)).mp (hle.trans_lt (hp.magnitude hm).2)
  have hnone := hd.coarser place hgt (by push_cast; omega)
  have hcenter := Parts.contains_size hm
  rw [← Parts.center_interval] at hcenter
  rw [← Interval.holds_iff, Interval.gridPoint?_eq_none hcenter hnone count]
  exact Bool.false_ne_true

theorem isWhole_of_nonneg (h : 0 ≤ p.exponent) : p.IsWhole := by
  obtain ⟨k, hk⟩ := Int.eq_ofNat_of_zero_le h
  refine ⟨p.mantissa * 2 ^ k, ?_⟩
  rw [Parts.size, hk]
  exact_mod_cast rfl

theorem isWhole_of_mantissa_eq_zero (hm : p.mantissa = 0) : p.IsWhole :=
  ⟨0, by rw [Parts.size_eq_zero hm, Nat.cast_zero]⟩

/-- A float that is no coarser than the whole numbers is read from no whole number but itself. -/
theorem eq_size_of_contains (he : p.exponent ≤ 0) {n : ℕ} (h : p.interval.Contains n) :
    p.size = n := by
  have hnear := h.abs_sub_le
  have hpow : (2 : ℚ) ^ p.exponent * 2 ^ (-p.exponent).toNat = 1 := by
    rw [zpow_mul_pow (by norm_num), Int.toNat_of_nonpos he, pow_zero]
  have htwo : (0 : ℚ) < 2 ^ (-p.exponent).toNat := by positivity
  have hdiff : |(n : ℚ) * 2 ^ (-p.exponent).toNat - p.mantissa| < 1 := by
    have : (n : ℚ) * 2 ^ (-p.exponent).toNat - p.mantissa =
        (n - p.mantissa * 2 ^ p.exponent) * 2 ^ (-p.exponent).toNat := by
      rw [sub_mul, mul_assoc, hpow, mul_one]
    rw [this, abs_mul, abs_of_pos htwo]
    nlinarith
  have heq : (n * 2 ^ (-p.exponent).toNat : ℤ) = p.mantissa := by
    have : |(n * 2 ^ (-p.exponent).toNat : ℤ) - p.mantissa| < 1 := by exact_mod_cast hdiff
    rw [Int.abs_lt_one_iff] at this
    omega
  have hmantissa : (p.mantissa : ℚ) = n * 2 ^ (-p.exponent).toNat := by exact_mod_cast heq.symm
  rw [Parts.size, hmantissa, mul_assoc, mul_comm (2 ^ _ : ℚ), hpow, mul_one]

/-- The shortest digits have places behind the point exactly when the number has a fraction. -/
theorem exponent_shortest_neg_iff (hp : p.IsFloat) (tie : Tie) :
    (shortest tie p.mantissa p.exponent).exponent < 0 ↔ ¬ p.IsWhole := by
  by_cases hm : p.mantissa = 0
  · rw [shortest_zero hm tie]
    simp [isWhole_of_mantissa_eq_zero hm]
  obtain ⟨d, hd, hs⟩ := isFirst_shortest hp hm tie
  constructor
  · rintro hneg ⟨n, hn⟩
    have hone : (10 : ℚ) ^ (0 : ℤ) ≤ p.size := by
      have hpos := Parts.size_pos hm
      rw [hn, Nat.cast_pos] at hpos
      rw [zpow_zero, hn]
      exact_mod_cast hpos
    have hlt : d.exponent < 0 := (d.exponent_le_strip 17).trans_lt (hs ▸ hneg)
    apply not_contains_coarser hp hm hd hlt hone n
    rw [zpow_zero, mul_one, ← hn]
    exact Parts.contains_size hm
  · intro hwhole
    by_contra hneg
    have he : p.exponent ≤ 0 := by
      by_contra h
      exact hwhole (isWhole_of_nonneg (by omega))
    obtain ⟨n, hn⟩ := Decimal.exists_size_of_nonneg (not_lt.mp hneg)
    have hin := contains_shortest hp hm tie
    rw [hn] at hin
    exact hwhole ⟨n, eq_size_of_contains he hin⟩

/-- The only float of up to 53 bits that is coarser than the whole numbers. -/
theorem eq_of_exponent_pos (hp : p.IsFloat) (he : 0 < p.exponent) (h : p.size ≤ 2 ^ 53) :
    p.mantissa = 2 ^ 52 ∧ p.exponent = 1 := by
  have hfull := hp.full (by omega)
  obtain ⟨k, hk⟩ : ∃ k : ℕ, p.exponent = k + 1 := ⟨(p.exponent - 1).toNat, by omega⟩
  have hmost : p.mantissa * (2 ^ k * 2) ≤ 2 ^ 53 := by
    rw [Parts.size, hk, zpow_add_one₀ (by norm_num), zpow_natCast] at h
    exact_mod_cast h
  have hmore : 2 ^ 52 * 2 ^ k ≤ p.mantissa * 2 ^ k := Nat.mul_le_mul_right _ hfull
  have hone : 2 ^ k = 1 := by
    have := Nat.one_le_two_pow (n := k)
    nlinarith
  obtain rfl : k = 0 := by
    by_contra hne
    have := Nat.one_lt_two_pow hne
    omega
  omega

/-- Up to 53 bits the shortest digits of a whole number are all of its digits. -/
theorem size_shortest_of_isWhole (hp : p.IsFloat) (hw : p.IsWhole) (h : p.size ≤ 2 ^ 53)
    (tie : Tie) : (shortest tie p.mantissa p.exponent).size = p.size := by
  by_cases hm : p.mantissa = 0
  · rw [shortest_zero hm tie, Parts.size_eq_zero hm]
    simp [Decimal.size]
  rcases le_or_gt p.exponent 0 with he | he
  · have hneg := (exponent_shortest_neg_iff hp tie).not.mpr (not_not.mpr hw)
    obtain ⟨n, hn⟩ := Decimal.exists_size_of_nonneg (not_lt.mp hneg)
    have hin := contains_shortest hp hm tie
    rw [hn] at hin
    rw [hn, eq_size_of_contains he hin]
  · obtain ⟨hmantissa, hexponent⟩ := eq_of_exponent_pos hp he h
    have hdigits : shortest tie (2 ^ 52) 1 = ⟨9007199254740992, 0⟩ := by
      cases tie <;> decide +kernel
    rw [Parts.size, hmantissa, hexponent, hdigits, Decimal.size]
    norm_num

/-- A number that has a fraction has at most 16 digits before the point. -/
theorem size_shortest_lt (hp : p.IsFloat) (hw : ¬ p.IsWhole) (tie : Tie) :
    (shortest tie p.mantissa p.exponent).size < 10 ^ 16 := by
  have hm : p.mantissa ≠ 0 := fun hm => hw (isWhole_of_mantissa_eq_zero hm)
  have he : p.exponent < 0 := by
    by_contra h
    exact hw (isWhole_of_nonneg (by omega))
  have hnear := (abs_le.mp (contains_shortest hp hm tie).abs_sub_le).2
  have hpow : (2 : ℚ) ^ p.exponent ≤ 1 := zpow_le_one_of_nonpos₀ (by norm_num) he.le
  have hbits : (p.mantissa : ℚ) ≤ 2 ^ 53 := by exact_mod_cast hp.bits.le
  have htwo : (0 : ℚ) < 2 ^ p.exponent := by positivity
  nlinarith

/-- Around `10 ^ (-5)` floats are `2 ^ (-69)` apart, and further apart they are larger. -/
theorem tiny_lt_size (hp : p.IsFloat) (he : -69 < p.exponent) : 10 ^ (-5 : ℤ) < p.size := by
  have hpow : (2 : ℚ) ^ (-68 : ℤ) ≤ 2 ^ p.exponent :=
    zpow_le_zpow_right₀ (by norm_num) (by omega)
  have hfull : (2 ^ 52 : ℚ) ≤ p.mantissa := by exact_mod_cast hp.full (by omega)
  have hleast : (2 ^ 52 : ℚ) * 2 ^ (-68 : ℤ) ≤ p.size :=
    mul_le_mul hfull hpow (by positivity) (by positivity)
  norm_num at hleast ⊢
  linarith

/-- No float below `10 ^ (-5)` is read from it: it is nearest to one above it. -/
theorem not_contains_tiny (hp : p.IsFloat) (hlt : p.size < 10 ^ (-5 : ℤ)) :
    ¬ p.interval.Contains (10 ^ (-5 : ℤ)) := by
  intro h
  have hhigh : (10 : ℚ) ^ (-5 : ℤ) ≤ (p.mantissa + 1 / 2) * 2 ^ p.exponent := by
    have := (abs_le.mp h.abs_sub_le).2
    linarith
  rcases lt_trichotomy p.exponent (-69) with he | he | he
  · have hpow : (2 : ℚ) ^ p.exponent ≤ 2 ^ (-70 : ℤ) :=
      zpow_le_zpow_right₀ (by norm_num) (by omega)
    have hbits : (p.mantissa : ℚ) + 1 ≤ 2 ^ 53 := by exact_mod_cast hp.bits
    have htwo : (0 : ℚ) < 2 ^ p.exponent := by positivity
    norm_num at hhigh hpow hbits
    nlinarith
  · rw [Parts.size, he] at hlt
    rw [he] at hhigh
    norm_num at hlt hhigh
    have hmost : (2 * p.mantissa : ℚ) < 11805916207174114 := by linarith
    have hleast : (11805916207174113 : ℚ) < 2 * p.mantissa + 1 := by linarith
    have hmost : 2 * p.mantissa < 11805916207174114 := by exact_mod_cast hmost
    have hleast : 11805916207174113 < 2 * p.mantissa + 1 := by exact_mod_cast hleast
    omega
  · exact absurd hlt (not_lt.mpr (tiny_lt_size hp he).le)

theorem tiny_le_size_shortest_iff (hp : p.IsFloat) (tie : Tie) :
    10 ^ (-5 : ℤ) ≤ (shortest tie p.mantissa p.exponent).size ↔ 10 ^ (-5 : ℤ) ≤ p.size := by
  by_cases hm : p.mantissa = 0
  · rw [shortest_zero hm tie, Parts.size_eq_zero hm]
    simp [Decimal.size]
  have hin := contains_shortest hp hm tie
  have hcenter := Parts.contains_size hm
  constructor
  · intro h
    by_contra hlt
    exact not_contains_tiny hp (not_le.mp hlt) (hcenter.between hin (not_le.mp hlt).le h)
  · intro h
    by_contra hlt
    have hlt := not_le.mp hlt
    have htiny := hin.between hcenter hlt.le h
    obtain ⟨d, hd, hs⟩ := isFirst_shortest hp hm tie
    rw [hs, Decimal.size_strip] at hlt hin
    rcases lt_or_ge d.exponent (-5) with he | he
    · apply not_contains_coarser hp hm hd he h 1
      rwa [Nat.cast_one, one_mul]
    · have hpow : (10 : ℚ) ^ (-5 : ℤ) ≤ 10 ^ d.exponent := zpow_le_zpow_right₀ (by norm_num) he
      have hcount := Parts.count_ne_zero hm hin
      have hone : (1 : ℚ) ≤ d.coefficient := by exact_mod_cast Nat.pos_of_ne_zero hcount
      have hleast := hpow.trans (le_mul_of_one_le_left (by positivity) hone)
      exact absurd hlt (not_lt.mpr hleast)

/-- The number lies halfway between two decimals that are read back as it, the lower one of which
has an even last digit, and no decimal of fewer digits is read back. -/
def Parts.IsTied (p : Parts) : Prop :=
  ∃ (count : ℕ) (place : ℤ), Even count ∧ 2 * p.size = (2 * count + 1) * 10 ^ place ∧
    p.interval.Contains (count * 10 ^ place) ∧ p.interval.Contains ((count + 1) * 10 ^ place) ∧
    ∀ (coarser : ℤ) (n : ℕ), place < coarser → 10 ^ coarser ≤ p.size →
      ¬ p.interval.Contains (n * 10 ^ coarser)

theorem exponent_of_isFirst (hp : p.IsFloat) (hm : p.mantissa ≠ 0)
    (hd : p.interval.IsFirst tie p.interval.magnitude 1 d) (hle : 10 ^ place ≤ p.size)
    (hin : p.interval.Contains (count * 10 ^ place))
    (hcoarser : ∀ (coarser : ℤ) (n : ℕ), place < coarser → 10 ^ coarser ≤ p.size →
      ¬ p.interval.Contains (n * 10 ^ coarser)) :
    d.exponent = place := by
  rcases lt_trichotomy d.exponent place with h | h | h
  · exact absurd hin (not_contains_coarser hp hm hd h hle count)
  · exact h
  · have hfine : 10 ^ d.exponent ≤ p.size :=
      (zpow_le_zpow_right₀ (by norm_num) hd.fine).trans (hp.magnitude hm).1
    exact absurd (contains_of_isFirst hd) (hcoarser d.exponent d.coefficient h hfine)

theorem Parts.not_isTied_of_mantissa_eq_zero (hm : p.mantissa = 0) : ¬ p.IsTied := by
  rintro ⟨count, place, -, hhalf, -⟩
  rw [Parts.size_eq_zero hm, mul_zero] at hhalf
  have : (0 : ℚ) < (2 * count + 1) * 10 ^ place := by positivity
  linarith

/-- Next to zero there is no tie, so that a grid with one is no coarser than the number. -/
theorem pow_le_size_of_halfway (hm : p.mantissa ≠ 0)
    (hhalf : 2 * p.size = (2 * count + 1) * 10 ^ place)
    (hlow : p.interval.Contains (count * 10 ^ place)) : 10 ^ place ≤ p.size := by
  have hten : (0 : ℚ) < 10 ^ place := by positivity
  have hcount := Parts.count_ne_zero hm hlow
  have : (1 : ℚ) ≤ count := by exact_mod_cast Nat.pos_of_ne_zero hcount
  nlinarith

/-- Both searches end at the same grid, so that they differ by the point that they take from it. -/
theorem isTied_of_isFirst {d d' : Decimal} (hp : p.IsFloat) (hm : p.mantissa ≠ 0)
    (hd : p.interval.IsFirst .toEven p.interval.magnitude 1 d)
    (hd' : p.interval.IsFirst .up p.interval.magnitude 1 d') (hne : d ≠ d') : p.IsTied := by
  have hcenter := Parts.contains_size hm
  rw [← Parts.center_interval] at hcenter
  have hexponent : d'.exponent = d.exponent :=
    le_antisymm (hd.exponent_le hcenter hd') (hd'.exponent_le hcenter hd)
  have hcount : d.coefficient ≠ d'.coefficient :=
    fun hcount => hne (Decimal.eq_of_fields hcount hexponent.symm)
  obtain ⟨hround, hlow, hhigh⟩ := Interval.gridPoint?_ne hd.found (hexponent ▸ hd'.found) hcount
  obtain ⟨heven, hhalf⟩ := (Interval.rounded_ne_iff _ _).mp hround
  rw [Parts.center_interval] at hhalf
  rw [Interval.holds_iff] at hlow hhigh
  exact ⟨_, _, heven, hhalf, hlow, by exact_mod_cast hhigh,
    fun coarser n hlt hle => not_contains_coarser hp hm hd hlt hle n⟩

/-- Where there is a tie, each search takes the point that its way to break ties takes. -/
theorem size_ne_of_isTied {d d' : Decimal} (hp : p.IsFloat) (hm : p.mantissa ≠ 0)
    (hd : p.interval.IsFirst .toEven p.interval.magnitude 1 d)
    (hd' : p.interval.IsFirst .up p.interval.magnitude 1 d') (htie : p.IsTied) :
    d.size ≠ d'.size := by
  obtain ⟨count, place, heven, hhalf, hlow, hhigh, hcoarser⟩ := htie
  have hle := pow_le_size_of_halfway hm hhalf hlow
  have hexponent := exponent_of_isFirst hp hm hd hle hlow hcoarser
  have hexponent' := exponent_of_isFirst hp hm hd' hle hlow hcoarser
  rw [← Parts.center_interval] at hhalf
  have hpoint := Interval.gridPoint?_of_halfway hhalf (Interval.holds_iff.mpr hlow)
    (Interval.holds_iff.mpr (by exact_mod_cast hhigh))
  have hfound := hd.found
  have hfound' := hd'.found
  rw [hexponent, hpoint, Option.some.injEq] at hfound
  rw [hexponent', hpoint, Option.some.injEq] at hfound'
  have hbelow := Interval.below_of_halfway hhalf
  have hround := (Interval.rounded_ne_iff _ place).mpr ⟨hbelow ▸ heven, hbelow ▸ hhalf⟩
  intro hsize
  rw [Decimal.size, Decimal.size, hexponent, hexponent', mul_left_inj' (by positivity),
    Nat.cast_inj, ← hfound, ← hfound'] at hsize
  exact hround hsize

/-- The two ways to break a tie come to different digits exactly where there is one. -/
theorem shortest_ne_iff (hp : p.IsFloat) :
    shortest .toEven p.mantissa p.exponent ≠ shortest .up p.mantissa p.exponent ↔ p.IsTied := by
  by_cases hm : p.mantissa = 0
  · rw [shortest_zero hm, shortest_zero hm]
    exact iff_of_false (fun h => h rfl) (Parts.not_isTied_of_mantissa_eq_zero hm)
  · obtain ⟨d, hd, hs⟩ := isFirst_shortest hp hm .toEven
    obtain ⟨d', hd', hs'⟩ := isFirst_shortest hp hm .up
    rw [hs, hs']
    constructor
    · intro hne
      exact isTied_of_isFirst hp hm hd hd' (mt (congrArg (Decimal.strip 17)) hne)
    · intro htie heq
      have hsize := congrArg Decimal.size heq
      rw [Decimal.size_strip, Decimal.size_strip] at hsize
      exact size_ne_of_isTied hp hm hd hd' htie hsize

end AppDef.Number
