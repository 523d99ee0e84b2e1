import Mathlib.Algebra.Order.Field.Power
import Mathlib.Tactic.Linarith
import Mathlib.Tactic.NormNum
import Mathlib.Tactic.Positivity
import Mathlib.Tactic.Ring
import AppDef.Number.Binary

namespace AppDef.Number

open Float.Model (UnpackedFloat Format)
open Float.Model.UnpackedFloat (Sign pack unpack packComponents unpackSign unpackExponent
  unpackMantissa)

theorem toBitVec_ofBitVec (s : BitVec 1) : (Sign.ofBitVec s).toBitVec = s := by
  rcases BitVec.eq_zero_or_eq_one s with rfl | rfl <;> rfl

theorem unpackSign_eq (b : BitVec Format.binary64.numBits) :
    unpackSign b = BitVec.cast rfl (b.extractLsb 63 63) :=
  rfl

/-- Sign, exponent and mantissa are all there is in the bits of a float. -/
theorem packComponents_unpack (b : BitVec Format.binary64.numBits) :
    packComponents .binary64 (.ofBitVec (unpackSign b)) (unpackExponent b) (unpackMantissa b) =
      b := by
  simp only [packComponents, toBitVec_ofBitVec, unpackSign_eq, unpackExponent, unpackMantissa]
  ext i hi
  grind

theorem toNat_one_append (m : BitVec 52) : (1#1 ++ m).toNat = 2 ^ 52 + m.toNat := by
  rw [BitVec.toNat_append, ← Nat.shiftLeft_add_eq_or_of_lt m.isLt]
  rfl

theorem pack_finite (s : Sign) (m : ℕ) (e : ℤ) (h : 0 < m) :
    pack .binary64 (.finite s m e h) =
      if 2048 ≤ (e + 1023 + 52).toNat + 1 then UnpackedFloat.packedInfinity .binary64 s
      else if m.log2 + 1 = 53 then
        packComponents .binary64 s (BitVec.ofNat 11 (e + 1023 + 52).toNat) (BitVec.ofNat 52 m)
      else packComponents .binary64 s 0#11 (BitVec.ofNat 52 m) :=
  rfl

/-- A subnormal number has the exponent zero and no hidden bit. -/
theorem pack_subnormal (s : Sign) {m : BitVec 52} (h : 0 < m.toNat) :
    pack .binary64 (.finite s m.toNat (-1074) h) = packComponents .binary64 s 0#11 m := by
  have hlog : m.toNat.log2 < 52 := (Nat.log2_lt h.ne').mpr m.isLt
  rw [pack_finite, if_neg (by decide), if_neg (by omega), BitVec.ofNat_toNat, BitVec.setWidth_eq]

/-- Of any other number the first bit is left out. -/
theorem pack_normal (s : Sign) {e : BitVec 11} {m : BitVec 52} (he : e.toNat ≠ 2047)
    (h : 0 < (1#1 ++ m).toNat) :
    pack .binary64 (.finite s (1#1 ++ m).toNat (e.toNat - 1075) h) =
      packComponents .binary64 s e m := by
  have hmlt : m.toNat < 2 ^ 52 := m.isLt
  have helt : e.toNat < 2 ^ 11 := e.isLt
  have hlog : (2 ^ 52 + m.toNat).log2 = 52 := by
    rw [Nat.log2_eq_iff (by omega)]
    omega
  have hbiased : ((e.toNat : ℤ) - 1075 + 1023 + 52).toNat = e.toNat := by omega
  have hhidden : BitVec.ofNat 52 (2 ^ 52 + m.toNat) = m := by
    apply BitVec.eq_of_toNat_eq
    simpa using hmlt
  rw [pack_finite, toNat_one_append, hbiased, if_neg (by omega), if_pos (by omega),
    BitVec.ofNat_toNat, BitVec.setWidth_eq, hhidden]

theorem toNat_pos_of_ne_zero {m : BitVec 52} (h : m ≠ 0#52) : 0 < m.toNat := by
  apply Nat.pos_of_ne_zero
  intro hm
  exact h (BitVec.eq_of_toNat_eq hm)

/-- What sign, exponent and mantissa stand for. -/
def ofFields (s : BitVec 1) (e : BitVec 11) (m : BitVec 52) : UnpackedFloat :=
  if e = -1#11 then if m = 0#52 then .infinity (.ofBitVec s) else .notANumber
  else if e = 0#11 then
    if h : m = 0#52 then .zero (.ofBitVec s)
    else .finite (.ofBitVec s) m.toNat (e.toNat - 1075 + 1) (toNat_pos_of_ne_zero h)
  else .finite (.ofBitVec s) (1#1 ++ m).toNat (e.toNat - 1075)
    (by rw [toNat_one_append]; omega)

theorem unpack_eq (b : BitVec Format.binary64.numBits) :
    unpack .binary64 b = ofFields (unpackSign b) (unpackExponent b) (unpackMantissa b) :=
  rfl

theorem pack_ofFields (s : BitVec 1) {e : BitVec 11} {m : BitVec 52}
    (h : e = -1#11 → m = 0#52) :
    pack .binary64 (ofFields s e m) = packComponents .binary64 (.ofBitVec s) e m := by
  unfold ofFields
  by_cases hfull : e = -1#11
  · rw [if_pos hfull, if_pos (h hfull), hfull, h hfull]
    rfl
  · rw [if_neg hfull]
    by_cases hzero : e = 0#11
    · rw [if_pos hzero]
      by_cases hbare : m = 0#52
      · rw [dif_pos hbare, hzero, hbare]
        rfl
      · rw [dif_neg hbare, hzero]
        exact pack_subnormal _ _
    · have hmost : e.toNat ≠ 2047 := fun hmost => hfull (BitVec.eq_of_toNat_eq hmost)
      rw [if_neg hzero]
      exact pack_normal _ hmost _

/-- Bits that stand for a number or for infinity are kept. -/
theorem pack_unpack {b : BitVec Format.binary64.numBits}
    (h : unpackExponent b = -1#11 → unpackMantissa b = 0#52) :
    pack .binary64 (unpack .binary64 b) = b := by
  rw [unpack_eq]
  exact (pack_ofFields _ h).trans (packComponents_unpack b)

/-- The exponent of a number is not all ones. -/
theorem isFinite_ofFields (s : BitVec 1) (e : BitVec 11) (m : BitVec 52) :
    (ofFields s e m).isFinite = decide (e ≠ -1#11) := by
  unfold ofFields
  by_cases hfull : e = -1#11
  · rw [if_pos hfull, decide_eq_false (not_not.mpr hfull)]
    by_cases hnone : m = 0#52
    · rw [if_pos hnone]
      rfl
    · rw [if_neg hnone]
      rfl
  · rw [if_neg hfull, decide_eq_true hfull]
    by_cases hzero : e = 0#11
    · rw [if_pos hzero]
      by_cases hbare : m = 0#52
      · rw [dif_pos hbare]
        rfl
      · rw [dif_neg hbare]
        rfl
    · rw [if_neg hzero]
      rfl

theorem toNat_unpackExponent (b : BitVec Format.binary64.numBits) :
    (unpackExponent b).toNat = b.toNat / 2 ^ 52 % 2048 := by
  simp [unpackExponent, Nat.shiftRight_eq_div_pow]

theorem toNat_unpackMantissa (b : BitVec Format.binary64.numBits) :
    (unpackMantissa b).toNat = b.toNat % 2 ^ 52 := by
  simp [unpackMantissa]

theorem isFinite_unpack (b : BitVec Format.binary64.numBits) :
    (unpack .binary64 b).isFinite = decide (b.toNat / 2 ^ 52 % 2048 ≠ 2047) := by
  rw [unpack_eq]
  refine (isFinite_ofFields _ _ _).trans (decide_eq_decide.mpr (not_congr ?_))
  rw [← toNat_unpackExponent, ← BitVec.toNat_inj]
  rfl

theorem toBits_ofBits {b : UInt64} (h : b.toNat % 2 ^ 63 ≤ infinityBits) :
    (Float.ofBits b).toBits = b := by
  have hbits : pack .binary64 (unpack .binary64 b.toBitVec) = b.toBitVec := by
    apply pack_unpack
    intro he
    have hfield : b.toNat / 2 ^ 52 % 2048 = 2047 := by
      rw [← UInt64.toNat_toBitVec]
      exact (toNat_unpackExponent b.toBitVec).symm.trans (congrArg BitVec.toNat he)
    apply BitVec.eq_of_toNat_eq
    refine (toNat_unpackMantissa b.toBitVec).trans ?_
    rw [UInt64.toNat_toBitVec]
    simp only [infinityBits] at h
    change b.toNat % 2 ^ 52 = 0
    omega
  change UInt64.ofBitVec (pack .binary64 (unpack .binary64 b.toBitVec)) = b
  rw [hbits]

theorem toNat_toBits_ofBits (negative : Bool) {magnitude : ℕ} (h : magnitude < infinityBits) :
    (ofBits negative magnitude).toBits.toNat = magnitude + if negative then 2 ^ 63 else 0 := by
  simp only [infinityBits] at h
  have hbits : (UInt64.ofNat (magnitude + if negative then Nat.pow 2 63 else 0)).toNat =
      magnitude + if negative then 2 ^ 63 else 0 := by
    rw [UInt64.toNat_ofNat']
    apply Nat.mod_eq_of_lt
    cases negative <;> simp <;> omega
  rw [ofBits, toBits_ofBits, hbits]
  rw [hbits]
  simp only [infinityBits]
  cases negative <;> simp <;> omega

/-- The number that bits below those of infinity stand for. -/
theorem kind_ofBits (negative : Bool) {magnitude : ℕ} (h : magnitude < infinityBits) :
    kind (ofBits negative magnitude) = .finite
      (if magnitude < 2 ^ 52 then ⟨negative, magnitude, -1074⟩
        else ⟨negative, magnitude % 2 ^ 52 + 2 ^ 52, (magnitude / 2 ^ 52 : ℕ) - 1075⟩) := by
  have hmost : magnitude < 2047 * 2 ^ 52 := h
  have hbits := toNat_toBits_ofBits negative h
  generalize hname : (ofBits negative magnitude).toBits.toNat = bits at hbits
  have hsign : (bits / 2 ^ 63 == 1) = negative := by
    rw [hbits]
    cases negative
    · simp
      omega
    · simp
      omega
  have hfield : bits / 2 ^ 52 % 2048 = magnitude / 2 ^ 52 := by
    rw [hbits]
    cases negative <;> simp <;> omega
  have hlow : bits % 2 ^ 52 = magnitude % 2 ^ 52 := by
    rw [hbits]
    cases negative <;> simp
    omega
  simp only [kind, hname, Nat.pow_eq, hsign, hfield, hlow]
  by_cases hsmall : magnitude < 2 ^ 52
  · rw [if_neg (by omega), if_pos (by omega), if_pos hsmall, Nat.mod_eq_of_lt hsmall]
  · rw [if_neg (by omega), if_neg (by omega), if_neg hsmall]

variable {n : ℕ}

/-- The bits of a whole number, moved up to where the mantissa has its first bit. -/
theorem shifted_bounds (hn : n ≠ 0) (h : n < 2 ^ 53) :
    2 ^ 52 ≤ n * 2 ^ (52 - n.log2) ∧ n * 2 ^ (52 - n.log2) < 2 ^ 53 := by
  have hlog : n.log2 < 53 := (Nat.log2_lt hn).mpr h
  have hsum : 2 ^ n.log2 * 2 ^ (52 - n.log2) = 2 ^ 52 := by
    rw [← Nat.pow_add]
    congr 1
    omega
  have hpos : 0 < 2 ^ (52 - n.log2) := Nat.two_pow_pos _
  have hlow := Nat.mul_le_mul_right (2 ^ (52 - n.log2)) (Nat.log2_self_le hn)
  have hhigh := Nat.mul_lt_mul_of_pos_right (Nat.lt_log2_self (n := n)) hpos
  rw [Nat.pow_succ] at hhigh
  constructor
  · omega
  · nlinarith

/-- Up to 53 bits there is nothing to round. -/
theorem nearestBits_of_lt (hn : n ≠ 0) (h : n < 2 ^ 53) :
    nearestBits n 1 = (n.log2 + 1022) * 2 ^ 52 + n * 2 ^ (52 - n.log2) := by
  have hlog : n.log2 < 53 := (Nat.log2_lt hn).mpr h
  obtain ⟨hlow, hhigh⟩ := shifted_bounds hn h
  have hscaled (k : ℕ) (hk : n.log2 ≤ k) :
      unscale n 1 ((n.log2 : ℤ) - k) = (n * 2 ^ (k - n.log2), 1) := by
    have hneg : (-((n.log2 : ℤ) - k)).toNat = k - n.log2 := by omega
    have hpos : ((n.log2 : ℤ) - k).toNat = 0 := by omega
    simp only [unscale, hneg, hpos, Nat.pow_eq, Nat.pow_zero, Nat.mul_one]
  have hstart : max ((n.log2 : ℤ) - ((1 : ℕ).log2 : ℤ) - 53) (-1074) = n.log2 - (53 : ℕ) := by
    have : (1 : ℕ).log2 = 0 := by decide
    omega
  -- A quotient of 54 bits has one too many.
  have hfull : ¬ n * 2 ^ (53 - n.log2) / 1 < Nat.pow 2 53 := by
    have : 53 - n.log2 = 52 - n.log2 + 1 := by omega
    rw [this, Nat.pow_succ, Nat.div_one, Nat.pow_eq, ← Nat.mul_assoc]
    omega
  have hexponent : (n.log2 : ℤ) - (53 : ℕ) + 1 = n.log2 - (52 : ℕ) := by omega
  have hround : roundDiv (n * 2 ^ (52 - n.log2)) 1 .toEven = n * 2 ^ (52 - n.log2) := by
    simp [roundDiv, Nat.mod_one]
  have hbiased : ((n.log2 : ℤ) - (52 : ℕ) + 1074).toNat = n.log2 + 1022 := by omega
  simp only [nearestBits, if_neg hn, hstart, hscaled 53 (by omega), if_neg hfull, hexponent,
    hscaled 52 (by omega), hround, hbiased, Nat.pow_eq]
  apply Nat.min_eq_right
  simp only [infinityBits]
  omega

/-- The range of mantissas and exponents that floats have. -/
structure Parts.IsFloat (p : Parts) : Prop where
  bits : p.mantissa < 2 ^ 53
  least : -1074 ≤ p.exponent
  most : p.exponent ≤ 971
  full : -1074 < p.exponent → 2 ^ 52 ≤ p.mantissa

/-- The number without its sign. -/
def Parts.size (p : Parts) : ℚ :=
  p.mantissa * 2 ^ p.exponent

/-- The number has no fraction. -/
def Parts.IsWhole (p : Parts) : Prop :=
  ∃ n : ℕ, p.size = n

variable {x : Float} {p : Parts} {i : ℤ}

theorem isFloat_of_kind (h : kind x = .finite p) : p.IsFloat := by
  simp only [kind, Nat.pow_eq] at h
  split_ifs at h
  · cases h
    constructor
    · simp only
      omega
    · exact le_rfl
    · simp
    · simp
  · cases h
    constructor
    · simp only
      omega
    · simp only
      omega
    · simp only
      omega
    · simp

theorem isFinite_iff : x.isFinite = true ↔ ∃ p, kind x = .finite p := by
  have hfinite : x.isFinite = decide (x.toBits.toNat / 2 ^ 52 % 2048 ≠ 2047) :=
    isFinite_unpack x.toBits.toBitVec
  rw [hfinite, decide_eq_true_eq]
  simp only [kind, Nat.pow_eq]
  split_ifs with h <;> simp [h]

/-- A whole number of fewer than 54 bits, with its first bit where a mantissa has it. -/
theorem kind_ofInt_of_lt (hi : i ≠ 0) (h : i.natAbs < 2 ^ 53) : kind (ofInt i) =
    .finite ⟨decide (i < 0), i.natAbs * 2 ^ (52 - i.natAbs.log2), i.natAbs.log2 - (52 : ℕ)⟩ := by
  have hne : i.natAbs ≠ 0 := Int.natAbs_ne_zero.mpr hi
  have hlog : i.natAbs.log2 < 53 := (Nat.log2_lt hne).mpr h
  have hbits := nearestBits_of_lt hne h
  obtain ⟨hlow, hhigh⟩ := shifted_bounds hne h
  have hmost : nearestBits i.natAbs 1 < infinityBits := by
    rw [hbits]
    simp only [infinityBits]
    omega
  rw [ofInt, nearest, kind_ofBits _ hmost, hbits, if_neg (by omega)]
  congr 2
  · omega
  · omega

/-- The place of the first bit does not change the number. -/
theorem shifted_size (h : n.log2 < 53) :
    (n : ℚ) * 2 ^ (52 - n.log2) * 2 ^ ((n.log2 : ℤ) - (52 : ℕ)) = n := by
  have hzero : ((52 - n.log2 : ℕ) : ℤ) + (n.log2 - (52 : ℕ)) = 0 := by omega
  rw [mul_assoc, ← zpow_natCast, ← zpow_add₀ (by norm_num), hzero, zpow_zero, mul_one]

/-- Whole numbers of up to 53 bits are floats. -/
theorem kind_ofInt (h : i.natAbs ≤ 2 ^ 53) :
    ∃ p, kind (ofInt i) = .finite p ∧ p.negative = decide (i < 0) ∧ p.size = i.natAbs := by
  rcases eq_or_lt_of_le h with htop | hlt
  · rcases Int.natAbs_eq i with hi | hi <;> rw [htop] at hi <;> subst hi
    · refine ⟨⟨false, 2 ^ 52, 1⟩, by decide +kernel, rfl, ?_⟩
      norm_num [Parts.size]
    · refine ⟨⟨true, 2 ^ 52, 1⟩, by decide +kernel, rfl, ?_⟩
      norm_num [Parts.size]
  · by_cases hi : i = 0
    · rw [hi]
      exact ⟨⟨false, 0, -1074⟩, by decide +kernel, rfl, by simp [Parts.size]⟩
    · have hlog := (Nat.log2_lt (Int.natAbs_ne_zero.mpr hi)).mpr hlt
      refine ⟨_, kind_ofInt_of_lt hi hlt, rfl, ?_⟩
      rw [Parts.size, Nat.cast_mul, Nat.cast_pow, Nat.cast_ofNat, shifted_size hlog]

theorem zpow_mul_pow {b : ℚ} (hb : b ≠ 0) (k : ℤ) : b ^ k * b ^ (-k).toNat = b ^ k.toNat := by
  rw [← zpow_natCast, ← zpow_natCast, ← zpow_add₀ hb]
  congr 1
  omega

theorem unscale_snd_pos (m : ℕ) (e : ℤ) : 0 < (unscale m 1 (-e)).2 := by
  simp only [unscale, Nat.pow_eq, one_mul]
  positivity

theorem size_mul_unscale (p : Parts) : p.size * (unscale p.mantissa 1 (-p.exponent)).2 =
    (unscale p.mantissa 1 (-p.exponent)).1 := by
  have h := zpow_mul_pow (b := 2) (by norm_num) p.exponent
  simp only [Parts.size, unscale, Nat.pow_eq, neg_neg, one_mul]
  push_cast
  rw [mul_assoc, h]

theorem whole?_eq_some_iff (hk : kind x = .finite p) : whole? x = some i ↔
    ∃ n : ℕ, p.size = n ∧ n < 9000000000000000 ∧ i = if p.negative then -(n : ℤ) else n := by
  have hpos := unscale_snd_pos p.mantissa p.exponent
  have hsize := size_mul_unscale p
  simp only [whole?, hk]
  generalize (unscale p.mantissa 1 (-p.exponent)).1 = num at *
  generalize (unscale p.mantissa 1 (-p.exponent)).2 = den at *
  have hden : (den : ℚ) ≠ 0 := by exact_mod_cast hpos.ne'
  have hwhole (n : ℕ) : p.size = n ↔ num % den = 0 ∧ num / den = n := by
    rw [← mul_left_inj' hden, hsize]
    constructor
    · intro h
      have : num = n * den := by exact_mod_cast h
      rw [this]
      exact ⟨Nat.mul_mod_left _ _, Nat.mul_div_cancel _ hpos⟩
    · rintro ⟨hmod, rfl⟩
      exact_mod_cast (Nat.div_mul_cancel (Nat.dvd_of_mod_eq_zero hmod)).symm
  simp only [hwhole]
  rw [Option.ite_none_right_eq_some, Option.some.injEq]
  simp only [Bool.and_eq_true, decide_eq_true_eq]
  constructor
  · rintro ⟨⟨hmod, hlt⟩, rfl⟩
    exact ⟨_, ⟨hmod, rfl⟩, hlt, rfl⟩
  · rintro ⟨n, ⟨hmod, rfl⟩, hlt, rfl⟩
    exact ⟨⟨hmod, hlt⟩, rfl⟩

/-- What shows as an integer is a whole number below nine quadrillion. -/
theorem kind_of_whole? (h : whole? x = some i) : ∃ (p : Parts) (n : ℕ), kind x = .finite p ∧
    p.size = n ∧ n < 9000000000000000 ∧ i = if p.negative then -(n : ℤ) else n := by
  cases hk : kind x with
  | finite p =>
    obtain ⟨n, hn⟩ := (whole?_eq_some_iff hk).mp h
    exact ⟨p, n, rfl, hn⟩
  | infinite | nan => simp [whole?, hk] at h

theorem natAbs_lt_of_whole? (h : whole? x = some i) : i.natAbs < 9000000000000000 := by
  obtain ⟨p, n, -, -, hless, rfl⟩ := kind_of_whole? h
  split_ifs <;> omega

theorem abs_ofFields (s : BitVec 1) (e : BitVec 11) (m : BitVec 52) :
    (ofFields s e m).abs = ofFields 0#1 e m := by
  unfold ofFields
  rw [apply_ite UnpackedFloat.abs, apply_ite UnpackedFloat.abs (m = 0#52),
    apply_ite UnpackedFloat.abs (e = 0#11), apply_dite UnpackedFloat.abs]
  rfl

theorem toNat_packComponents_positive (e : BitVec 11) (m : BitVec 52) :
    (packComponents .binary64 .positive e m).toNat = e.toNat * 2 ^ 52 + m.toNat := by
  have h : (packComponents .binary64 .positive e m).toNat = (0#1 ++ e ++ m).toNat := rfl
  rw [h, BitVec.toNat_append, ← Nat.shiftLeft_add_eq_or_of_lt m.isLt, BitVec.toNat_append]
  simp [Nat.shiftLeft_eq]

/-- Of the bits of a number the magnitude has all but the first. -/
theorem toNat_toBits_abs (hk : kind x = .finite p) :
    x.abs.toBits.toNat = x.toBits.toNat % 2 ^ 63 := by
  have hfinite : (unpack .binary64 x.toBits.toBitVec).isFinite = true := isFinite_iff.mpr ⟨p, hk⟩
  rw [unpack_eq, isFinite_ofFields, decide_eq_true_eq] at hfinite
  have he := toNat_unpackExponent x.toBits.toBitVec
  have hm := toNat_unpackMantissa x.toBits.toBitVec
  change (pack .binary64 (unpack .binary64 x.toBits.toBitVec).abs).toNat =
    x.toBits.toBitVec.toNat % 2 ^ 63
  generalize x.toBits.toBitVec = b at *
  rw [unpack_eq, abs_ofFields, pack_ofFields _ fun hfull => absurd hfull hfinite]
  refine (toNat_packComponents_positive _ _).trans ?_
  rw [he, hm]
  omega

theorem kind_abs (hk : kind x = .finite p) : kind x.abs = .finite { p with negative := false } := by
  have hbits := toNat_toBits_abs hk
  simp only [kind, Nat.pow_eq] at hk ⊢
  rw [hbits]
  generalize x.toBits.toNat = bits at *
  have hfield : bits % 2 ^ 63 / 2 ^ 52 % 2048 = bits / 2 ^ 52 % 2048 := by omega
  have hlow : bits % 2 ^ 63 % 2 ^ 52 = bits % 2 ^ 52 := by omega
  have hsign : (bits % 2 ^ 63 / 2 ^ 63 == 1) = false := by
    rw [Nat.div_eq_of_lt (Nat.mod_lt _ (by norm_num))]
    rfl
  rw [hfield, hlow, hsign]
  split_ifs at hk ⊢ <;> cases hk <;> rfl

end AppDef.Number
