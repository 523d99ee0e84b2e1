import Mathlib.Tactic.GCongr
import AppDef.Number.Shortest
import AppDef.Proofs.Number.Encoding

namespace AppDef.Number

variable {tie : Tie} {place : ℤ} {count : ℕ}

/-- The number that a decimal writes. -/
def Decimal.size (d : Decimal) : ℚ :=
  d.coefficient * 10 ^ d.exponent

theorem roundDiv_eq (num den : ℕ) (tie : Tie) :
    roundDiv num den tie = num / den ∨ roundDiv num den tie = num / den + 1 := by
  unfold roundDiv
  dsimp only
  split_ifs
  · exact .inl rfl
  · exact .inr rfl
  · cases tie with
    | up => exact .inr rfl
    | toEven =>
      dsimp only
      omega

/-- A quotient is rounded by half a unit at most. -/
theorem roundDiv_near (num : ℕ) {den : ℕ} (hden : 0 < den) (tie : Tie) :
    2 * num ≤ (2 * roundDiv num den tie + 1) * den ∧
      2 * roundDiv num den tie * den ≤ 2 * num + den := by
  have hnum := Nat.div_add_mod num den
  have hlt := Nat.mod_lt num hden
  unfold roundDiv
  dsimp only
  generalize num / den = q at *
  generalize num % den = r at *
  subst hnum
  split_ifs with hless hmore
  · constructor <;> nlinarith
  · constructor <;> nlinarith
  · have hr : 2 * r = den := by omega
    cases tie with
    | up => constructor <;> nlinarith
    | toEven =>
      dsimp only
      rcases Nat.mod_two_eq_zero_or_one q with hq | hq
      · rw [hq]
        constructor <;> nlinarith
      · rw [hq]
        constructor <;> nlinarith

/-- The two ways to break a tie differ halfway above an even number. -/
theorem roundDiv_ne_iff {num den : ℕ} (hden : 0 < den) :
    roundDiv num den .toEven ≠ roundDiv num den .up ↔
      Even (num / den) ∧ 2 * num = (2 * (num / den) + 1) * den := by
  have hnum := Nat.div_add_mod num den
  have hlt := Nat.mod_lt num hden
  unfold roundDiv
  dsimp only
  generalize num / den = q at *
  generalize num % den = r at *
  subst hnum
  have hhalf : 2 * (den * q + r) = (2 * q + 1) * den ↔ 2 * r = den := by
    have hleft : 2 * (den * q + r) = 2 * q * den + 2 * r := by ring
    have hright : (2 * q + 1) * den = 2 * q * den + den := by ring
    rw [hleft, hright]
    omega
  rw [hhalf, Nat.even_iff]
  split_ifs <;> omega

namespace Interval

variable {i : Interval} {a b r : ℚ}

/-- The denominator under which a scaled pair stands. -/
def common (i : Interval) (place : ℤ) : ℚ :=
  2 ^ (-i.exponent).toNat * 10 ^ (-place).toNat

theorem common_pos (i : Interval) (place : ℤ) : 0 < i.common place := by
  unfold common
  positivity

theorem cast_scale_fst (i : Interval) (place : ℤ) (quarters count : ℕ) :
    ((i.scale place quarters count).1 : ℚ) = quarters * 2 ^ i.exponent * i.common place := by
  have h := zpow_mul_pow (b := 2) (by norm_num) i.exponent
  simp only [scale, Nat.pow_eq, Nat.cast_mul, Nat.cast_pow, Nat.cast_ofNat, common, ← h]
  ring

theorem cast_scale_snd (i : Interval) (place : ℤ) (quarters count : ℕ) :
    ((i.scale place quarters count).2 : ℚ) = count * 10 ^ place * i.common place := by
  have h := zpow_mul_pow (b := 10) (by norm_num) place
  simp only [scale, Nat.pow_eq, Nat.cast_mul, Nat.cast_pow, Nat.cast_ofNat, common, ← h]
  ring

theorem scale_le (i : Interval) (place : ℤ) (quarters count : ℕ) :
    (i.scale place quarters count).1 ≤ (i.scale place quarters count).2 ↔
      (quarters * 2 ^ i.exponent : ℚ) ≤ count * 10 ^ place := by
  rw [← Nat.cast_le (α := ℚ), cast_scale_fst, cast_scale_snd,
    mul_le_mul_iff_left₀ (i.common_pos place)]

theorem le_scale (i : Interval) (place : ℤ) (quarters count : ℕ) :
    (i.scale place quarters count).2 ≤ (i.scale place quarters count).1 ↔
      (count * 10 ^ place : ℚ) ≤ quarters * 2 ^ i.exponent := by
  rw [← Nat.cast_le (α := ℚ), cast_scale_fst, cast_scale_snd,
    mul_le_mul_iff_left₀ (i.common_pos place)]

theorem scale_one_pos (i : Interval) (place : ℤ) (quarters : ℕ) :
    0 < (i.scale place quarters 1).2 := by
  rw [← Nat.cast_pos (α := ℚ), cast_scale_snd]
  have := i.common_pos place
  positivity

/-- The number is read back as the middle of the interval. -/
def Contains (i : Interval) (r : ℚ) : Prop :=
  if i.closed then i.low * 2 ^ i.exponent ≤ r ∧ r ≤ i.high * 2 ^ i.exponent
  else i.low * 2 ^ i.exponent < r ∧ r < i.high * 2 ^ i.exponent

theorem holds_iff : i.holds place count = true ↔ i.Contains (count * 10 ^ place) := by
  have hlow := i.scale_le place i.low count
  have hhigh := i.le_scale place i.high count
  have hlow' := (i.le_scale place i.low count).not
  have hhigh' := (i.scale_le place i.high count).not
  rw [not_le, not_le] at hlow' hhigh'
  simp only [Contains, ← hlow, ← hhigh, ← hlow', ← hhigh']
  unfold holds
  dsimp only
  split_ifs with h
  · rw [Bool.and_eq_true]
    exact and_congr decide_eq_true_iff decide_eq_true_iff
  · rw [Bool.and_eq_true]
    exact and_congr decide_eq_true_iff decide_eq_true_iff

theorem Contains.bounds (h : i.Contains r) :
    i.low * 2 ^ i.exponent ≤ r ∧ r ≤ i.high * 2 ^ i.exponent := by
  unfold Contains at h
  split_ifs at h
  · exact h
  · exact ⟨h.1.le, h.2.le⟩

theorem contains_of_lt (hlow : i.low * 2 ^ i.exponent < r) (hhigh : r < i.high * 2 ^ i.exponent) :
    i.Contains r := by
  unfold Contains
  split_ifs
  · exact ⟨hlow.le, hhigh.le⟩
  · exact ⟨hlow, hhigh⟩

theorem Contains.between (ha : i.Contains a) (hb : i.Contains b) (har : a ≤ r) (hrb : r ≤ b) :
    i.Contains r := by
  unfold Contains at *
  split_ifs at * with h
  · exact ⟨ha.1.trans har, hrb.trans hb.2⟩
  · exact ⟨ha.1.trans_le har, hrb.trans_lt hb.2⟩

/-- The middle of the interval. -/
def center (i : Interval) : ℚ :=
  i.middle * 2 ^ i.exponent

/-- The point of a grid just below the middle. -/
def below (i : Interval) (place : ℤ) : ℕ :=
  (i.scale place i.middle 1).1 / (i.scale place i.middle 1).2

/-- The point of a grid nearest to the middle. -/
def rounded (i : Interval) (tie : Tie) (place : ℤ) : ℕ :=
  roundDiv (i.scale place i.middle 1).1 (i.scale place i.middle 1).2 tie

theorem below_le (i : Interval) (place : ℤ) : i.below place * 10 ^ place ≤ i.center := by
  have h : i.below place * (i.scale place i.middle 1).2 ≤ (i.scale place i.middle 1).1 :=
    Nat.div_mul_le_self _ _
  rw [← Nat.cast_le (α := ℚ), Nat.cast_mul, cast_scale_fst, cast_scale_snd, Nat.cast_one,
    one_mul, ← mul_assoc] at h
  rw [center, ← mul_le_mul_iff_left₀ (i.common_pos place)]
  exact h

theorem lt_below (i : Interval) (place : ℤ) : i.center < (i.below place + 1) * 10 ^ place := by
  have h : (i.scale place i.middle 1).1 < (i.below place + 1) * (i.scale place i.middle 1).2 :=
    Nat.lt_mul_of_div_lt (Nat.lt_succ_self _) (i.scale_one_pos _ _)
  rw [← Nat.cast_lt (α := ℚ), Nat.cast_mul, cast_scale_fst, cast_scale_snd, Nat.cast_one,
    one_mul, ← mul_assoc, Nat.cast_add_one] at h
  rw [center, ← mul_lt_mul_iff_left₀ (i.common_pos place)]
  exact h

theorem abs_rounded_sub_le (i : Interval) (tie : Tie) (place : ℤ) :
    |i.rounded tie place * 10 ^ place - i.center| ≤ 10 ^ place / 2 := by
  obtain ⟨hlow, hhigh⟩ := roundDiv_near (i.scale place i.middle 1).1
    (i.scale_one_pos place i.middle) tie
  change 2 * _ ≤ (2 * i.rounded tie place + 1) * _ at hlow
  change 2 * i.rounded tie place * _ ≤ _ at hhigh
  generalize i.rounded tie place = c at *
  have hc := i.common_pos place
  rw [← Nat.cast_le (α := ℚ)] at hlow hhigh
  push_cast [cast_scale_fst, cast_scale_snd] at hlow hhigh
  have hlow : 2 * i.center ≤ (2 * c + 1) * 10 ^ place := by
    rw [center, ← mul_le_mul_iff_left₀ hc]
    linarith
  have hhigh : 2 * c * 10 ^ place ≤ 2 * i.center + 10 ^ place := by
    rw [center, ← mul_le_mul_iff_left₀ hc]
    linarith
  rw [abs_le]
  constructor <;> linarith

theorem rounded_eq (i : Interval) (tie : Tie) (place : ℤ) :
    i.rounded tie place = i.below place ∨ i.rounded tie place = i.below place + 1 :=
  roundDiv_eq _ _ _

theorem gridPoint?_eq (i : Interval) (tie : Tie) (place : ℤ) : i.gridPoint? tie place =
    match i.holds place (i.below place), i.holds place (i.below place + 1) with
    | true, true => some (i.rounded tie place)
    | true, false => some (i.below place)
    | false, true => some (i.below place + 1)
    | false, false => none :=
  rfl

/-- If a point above the middle is read back, the next one above it is. -/
theorem holds_above (hc : i.Contains i.center) (h : i.holds place count = true)
    (hlt : i.below place < count) : i.holds place (i.below place + 1) = true := by
  have hten : (0 : ℚ) < 10 ^ place := by positivity
  rw [holds_iff] at h ⊢
  refine hc.between h ?_ ?_
  · exact_mod_cast (i.lt_below place).le
  · gcongr
    exact hlt

theorem holds_below (hc : i.Contains i.center) (h : i.holds place count = true)
    (hle : count ≤ i.below place) : i.holds place (i.below place) = true := by
  have hten : (0 : ℚ) < 10 ^ place := by positivity
  rw [holds_iff] at h ⊢
  refine h.between hc ?_ (i.below_le place)
  gcongr

theorem holds_of_gridPoint? (h : i.gridPoint? tie place = some count) :
    i.holds place count = true := by
  rw [gridPoint?_eq] at h
  split at h <;> rename_i hbelow habove <;> cases h
  · rcases i.rounded_eq tie place with h | h
    · rw [h]
      exact hbelow
    · rw [h]
      exact habove
  · exact hbelow
  · exact habove

theorem gridPoint?_eq_none (hc : i.Contains i.center) (h : i.gridPoint? tie place = none)
    (count : ℕ) : i.holds place count = false := by
  rw [← Bool.not_eq_true]
  intro hcount
  rw [gridPoint?_eq] at h
  split at h <;> rename_i hbelow habove <;> cases h
  rcases Nat.lt_or_ge (i.below place) count with hlt | hle
  · rw [holds_above hc hcount hlt] at habove
    cases habove
  · rw [holds_below hc hcount hle] at hbelow
    cases hbelow

/-- A nearest point that is read back is the one that is taken. -/
theorem gridPoint?_of_holds_rounded (h : i.holds place (i.rounded tie place) = true) :
    i.gridPoint? tie place = some (i.rounded tie place) := by
  rw [gridPoint?_eq]
  rcases i.rounded_eq tie place with heq | heq <;> rw [heq] at h ⊢ <;> rw [h]
  · cases i.holds place (i.below place + 1) <;> rfl
  · cases i.holds place (i.below place) <;> rfl

/-- The decimal is the point of the coarsest grid that has one, from `digits` digits on. -/
structure IsFirst (i : Interval) (tie : Tie) (magnitude : ℤ) (digits : ℕ) (d : Decimal) :
    Prop where
  found : i.gridPoint? tie d.exponent = some d.coefficient
  fine : d.exponent ≤ magnitude - digits
  coarser : ∀ place, d.exponent < place → place ≤ magnitude - digits →
    i.gridPoint? tie place = none

/-- By induction on the digits that are left to try, if the last grid has a point. -/
theorem isFirst_search {magnitude : ℤ} {left digits : ℕ}
    (hlast : i.gridPoint? tie (magnitude - (digits + left : ℕ)) =
      some (i.rounded tie (magnitude - (digits + left : ℕ)))) :
    i.IsFirst tie magnitude digits (i.search tie magnitude left digits) := by
  induction left generalizing digits with
  | zero => exact ⟨hlast, le_refl _, fun place hgt hle => absurd hgt (not_lt.mpr hle)⟩
  | succ left ih =>
    unfold search
    dsimp only
    cases hg : i.gridPoint? tie (magnitude - digits) with
    | some count => exact ⟨hg, le_refl _, fun place hgt hle => absurd hgt (not_lt.mpr hle)⟩
    | none =>
      have hrest : digits + 1 + left = digits + (left + 1) := by omega
      obtain ⟨hfound, hfine, hcoarser⟩ := @ih (digits + 1) (hrest ▸ hlast)
      refine ⟨hfound, hfine.trans (by push_cast; omega), fun place hgt hle => ?_⟩
      rcases eq_or_lt_of_le hle with rfl | hlt
      · exact hg
      · exact hcoarser place hgt (by push_cast; omega)

/-- Two searches of one interval end at the same grid, however they break ties. -/
theorem IsFirst.exponent_le {tie' : Tie} {magnitude : ℤ} {digits : ℕ} {d d' : Decimal}
    (hc : i.Contains i.center) (h : i.IsFirst tie magnitude digits d)
    (h' : i.IsFirst tie' magnitude digits d') : d'.exponent ≤ d.exponent := by
  by_contra hlt
  have hnone := h.coarser d'.exponent (not_le.mp hlt) h'.fine
  have hholds := holds_of_gridPoint? h'.found
  rw [gridPoint?_eq_none hc hnone] at hholds
  cases hholds

theorem rounded_ne_iff (i : Interval) (place : ℤ) :
    i.rounded .toEven place ≠ i.rounded .up place ↔
      Even (i.below place) ∧ 2 * i.center = (2 * i.below place + 1) * 10 ^ place := by
  have hc := (i.common_pos place).ne'
  refine (roundDiv_ne_iff (i.scale_one_pos _ _)).trans (and_congr Iff.rfl ?_)
  change 2 * (i.scale place i.middle 1).1 = (2 * i.below place + 1) * _ ↔ _
  rw [← Nat.cast_inj (R := ℚ)]
  push_cast [cast_scale_fst, cast_scale_snd]
  rw [one_mul, ← mul_assoc (2 * i.below place + 1 : ℚ), ← mul_assoc 2 _ (i.common place),
    mul_left_inj' hc, center]

theorem below_of_halfway (h : 2 * i.center = (2 * count + 1) * 10 ^ place) :
    i.below place = count := by
  have hlow := i.below_le place
  have hhigh := i.lt_below place
  have hten : (0 : ℚ) < 10 ^ place := by positivity
  have hlow : ((2 * i.below place : ℕ) : ℚ) ≤ (2 * count + 1 : ℕ) := by
    push_cast
    rw [← mul_le_mul_iff_left₀ hten]
    linarith
  have hhigh : ((2 * count + 1 : ℕ) : ℚ) < (2 * i.below place + 2 : ℕ) := by
    push_cast
    rw [← mul_lt_mul_iff_left₀ hten]
    linarith
  have hlow := Nat.cast_le.mp hlow
  have hhigh := Nat.cast_lt.mp hhigh
  omega

/-- Where the two ways to break a tie take different points, both points are read back. -/
theorem gridPoint?_ne {count count' : ℕ} (h : i.gridPoint? .toEven place = some count)
    (h' : i.gridPoint? .up place = some count') (hne : count ≠ count') :
    i.rounded .toEven place ≠ i.rounded .up place ∧ i.holds place (i.below place) = true ∧
      i.holds place (i.below place + 1) = true := by
  rw [gridPoint?_eq] at h h'
  split at h <;> rename_i hbelow habove <;> simp only [hbelow, habove] at h' <;> cases h <;>
    cases h'
  · exact ⟨hne, hbelow, habove⟩
  · exact absurd rfl hne
  · exact absurd rfl hne

theorem gridPoint?_of_halfway (h : 2 * i.center = (2 * count + 1) * 10 ^ place)
    (hlow : i.holds place count = true) (hhigh : i.holds place (count + 1) = true) (tie : Tie) :
    i.gridPoint? tie place = some (i.rounded tie place) := by
  rw [gridPoint?_eq, below_of_halfway h, hlow, hhigh]

end Interval

end AppDef.Number
