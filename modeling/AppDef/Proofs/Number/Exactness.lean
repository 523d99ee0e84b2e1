import AppDef.Proofs.Number.Notation

namespace AppDef.Number

/-- With ties going up a quotient is less than half a unit above what it is rounded to. -/
theorem lt_roundDiv_up (num : ℕ) {den : ℕ} (hden : 0 < den) :
    2 * num < (2 * roundDiv num den .up + 1) * den := by
  have hnum := Nat.div_add_mod num den
  have hlt := Nat.mod_lt num hden
  unfold roundDiv
  dsimp only
  generalize num / den = q at *
  generalize num % den = r at *
  subst hnum
  split_ifs with hless hmore
  · nlinarith
  · nlinarith
  · nlinarith

namespace Interval

variable {i : Interval} {place : ℤ} {count c : ℕ}

theorem lt_rounded_up (i : Interval) (place : ℤ) :
    2 * i.center < (2 * i.rounded .up place + 1) * 10 ^ place := by
  have h := lt_roundDiv_up (i.scale place i.middle 1).1 (i.scale_one_pos place i.middle)
  change 2 * _ < (2 * i.rounded .up place + 1) * _ at h
  rw [← Nat.cast_lt (α := ℚ)] at h
  push_cast [cast_scale_fst, cast_scale_snd] at h
  rw [center, ← mul_lt_mul_iff_left₀ (i.common_pos place)]
  linarith

/-- No point of the grid is nearer than the rounded one, and no larger one is as near. -/
theorem rounded_nearest (i : Interval) (place : ℤ) (c : ℕ) :
    |i.rounded .up place * 10 ^ place - i.center| ≤ |c * 10 ^ place - i.center| ∧
      (i.rounded .up place < c →
        |i.rounded .up place * 10 ^ place - i.center| < |c * 10 ^ place - i.center|) := by
  have hten : (0 : ℚ) < 10 ^ place := by positivity
  have hhalf := i.abs_rounded_sub_le .up place
  have habove := i.lt_rounded_up place
  have hleast := (abs_le.mp hhalf).2
  generalize i.rounded .up place = r at *
  rcases lt_trichotomy c r with h | h | h
  · have hstep : (c : ℚ) + 1 ≤ r := by exact_mod_cast h
    have hfar : 10 ^ place / 2 ≤ |c * 10 ^ place - i.center| := by
      rw [le_abs]
      right
      nlinarith
    exact ⟨hhalf.trans hfar, fun hlt => absurd hlt h.le.not_gt⟩
  · subst h
    exact ⟨le_rfl, fun hlt => absurd hlt (lt_irrefl _)⟩
  · have hstep : (r : ℚ) + 1 ≤ c := by exact_mod_cast h
    have hfar : 10 ^ place / 2 < |c * 10 ^ place - i.center| := by
      rw [lt_abs]
      left
      nlinarith
    exact ⟨hhalf.trans hfar.le, fun _ => hhalf.trans_lt hfar⟩

/-- Of the points that are read back the one that is taken is the nearest. -/
theorem nearest_of_gridPoint? (hc : i.Contains i.center) (h : i.gridPoint? .up place = some count)
    (hin : i.holds place c = true) :
    |count * 10 ^ place - i.center| ≤ |c * 10 ^ place - i.center| ∧
      (count < c → |count * 10 ^ place - i.center| < |c * 10 ^ place - i.center|) := by
  have hten : (0 : ℚ) < 10 ^ place := by positivity
  have hlow := i.below_le place
  have hhigh := i.lt_below place
  rw [gridPoint?_eq] at h
  split at h <;> rename_i hbelow habove <;> cases h
  · exact i.rounded_nearest place c
  · have hle : c ≤ i.below place := by
      by_contra hlt
      rw [holds_above hc hin (not_le.mp hlt)] at habove
      cases habove
    have hstep : (c * 10 ^ place : ℚ) ≤ i.below place * 10 ^ place := by gcongr
    rw [abs_of_nonpos (by linarith), abs_of_nonpos (by linarith)]
    exact ⟨by linarith, fun hlt => absurd hlt hle.not_gt⟩
  · have hlt : i.below place < c := by
      by_contra hle
      rw [holds_below hc hin (not_lt.mp hle)] at hbelow
      cases hbelow
    have hstep : ((i.below place + 1 : ℕ) * 10 ^ place : ℚ) ≤ c * 10 ^ place := by
      gcongr
      exact hlt
    push_cast at hstep ⊢
    rw [abs_of_nonneg (by linarith), abs_of_nonneg (by linarith)]
    refine ⟨by linarith, fun hmore => ?_⟩
    have hstep : ((i.below place : ℚ) + 1) * 10 ^ place < c * 10 ^ place := by
      gcongr
      exact_mod_cast hmore
    linarith

end Interval

variable {p : Parts} {d d' : Decimal} {i : ℤ} {n : ℕ} {x : Float}

/-- The decimal is read back, no coarser grid has a point that is, and on its own grid no such point
is nearer, nor as near and larger. -/
structure Parts.IsShown (p : Parts) (d : Decimal) : Prop where
  readBack : p.interval.Contains d.size
  fine : 10 ^ d.exponent ≤ p.size
  coarsest : ∀ (coarser : ℤ) (n : ℕ), d.exponent < coarser → 10 ^ coarser ≤ p.size →
    ¬ p.interval.Contains (n * 10 ^ coarser)
  nearest : ∀ n : ℕ, p.interval.Contains (n * 10 ^ d.exponent) →
    |d.size - p.size| ≤ |n * 10 ^ d.exponent - p.size| ∧
      (d.coefficient < n → |d.size - p.size| < |n * 10 ^ d.exponent - p.size|)

theorem Parts.contains_center (hm : p.mantissa ≠ 0) : p.interval.Contains p.interval.center := by
  rw [Parts.center_interval]
  exact Parts.contains_size hm

theorem isShown_of_isFirst (hp : p.IsFloat) (hm : p.mantissa ≠ 0)
    (hd : p.interval.IsFirst .up p.interval.magnitude 1 d) : p.IsShown d where
  readBack := contains_of_isFirst hd
  fine := (zpow_le_zpow_right₀ (by norm_num) hd.fine).trans (hp.magnitude hm).1
  coarsest := fun _ n hlt hle => not_contains_coarser hp hm hd hlt hle n
  nearest := by
    intro n hn
    have h := Interval.nearest_of_gridPoint? (Parts.contains_center hm) hd.found
      (Interval.holds_iff.mpr hn)
    rwa [Parts.center_interval] at h

/-- There is one such decimal only: two would be equally near and each no smaller than the other. -/
theorem Parts.IsShown.unique (hp : p.IsFloat) (hm : p.mantissa ≠ 0)
    (hd : p.interval.IsFirst .up p.interval.magnitude 1 d) (h : p.IsShown d') : d = d' := by
  have hshown := isShown_of_isFirst hp hm hd
  have hexponent : d.exponent = d'.exponent :=
    exponent_of_isFirst hp hm hd h.fine h.readBack h.coarsest
  have hthis := h.nearest d.coefficient (hexponent ▸ hshown.readBack)
  have hthat := hshown.nearest d'.coefficient (hexponent ▸ h.readBack)
  rw [← hexponent] at hthis
  rw [hexponent] at hthat
  change |d'.size - p.size| ≤ |d.size - p.size| ∧ (_ → |d'.size - p.size| < |d.size - p.size|)
    at hthis
  change |d.size - p.size| ≤ |d'.size - p.size| ∧ (_ → |d.size - p.size| < |d'.size - p.size|)
    at hthat
  refine Decimal.eq_of_fields (le_antisymm ?_ ?_) hexponent
  · exact not_lt.mp fun hlt => (hthis.2 hlt).not_ge hthat.1
  · exact not_lt.mp fun hlt => (hthat.2 hlt).not_ge hthis.1

theorem size_shortest_up_eq_iff (hp : p.IsFloat) (hm : p.mantissa ≠ 0) (r : ℚ) :
    (shortest .up p.mantissa p.exponent).size = r ↔ ∃ d, p.IsShown d ∧ d.size = r := by
  obtain ⟨d, hd, hs⟩ := isFirst_shortest hp hm .up
  rw [hs, Decimal.size_strip]
  constructor
  · exact fun hr => ⟨d, isShown_of_isFirst hp hm hd, hr⟩
  · rintro ⟨d', hshown, rfl⟩
    rw [hshown.unique hp hm hd]

theorem nearestBits_le (num den : ℕ) : nearestBits num den ≤ infinityBits := by
  unfold nearestBits
  split_ifs
  · exact Nat.zero_le _
  · exact Nat.min_le_left _ _

theorem kind_infinityBits (negative : Bool) :
    kind (ofBits negative infinityBits) = .infinite negative := by
  cases negative <;> decide +kernel

theorem negative_of_kind_ofInt (hk : kind (ofInt i) = .finite p) :
    p.negative = decide (i < 0) := by
  rw [ofInt, nearest] at hk
  rcases (nearestBits_le i.natAbs 1).lt_or_eq with h | h
  · rw [kind_ofBits _ h] at hk
    cases hk
    split_ifs <;> rfl
  · rw [h, kind_infinityBits] at hk
    cases hk

theorem size_of_positional_eq
    (h : positional (decimalDigits d.coefficient) d.exponent = decimalDigits n) : d.size = n := by
  have hnonneg : 0 ≤ d.exponent := by
    by_contra hneg
    have hpoint := (point_mem_positional_iff (c := d.coefficient)).mpr (not_le.mp hneg)
    rw [h] at hpoint
    exact absurd (isDigit_of_mem hpoint) (by decide)
  obtain ⟨j, hj⟩ := Int.eq_ofNat_of_zero_le hnonneg
  rw [positional_of_nonneg hnonneg, hj, Int.toNat_natCast] at h
  have hvalue := congrArg (Nat.ofDigitChars 10 · 0) h
  simp only [Nat.ofDigitChars_append, ofDigitChars_decimalDigits, zeros,
    Nat.ofDigitChars_replicate_zero] at hvalue
  rw [Decimal.size, hj, zpow_natCast, ← hvalue]
  push_cast
  ring

theorem sign_not_mem_decimalDigits (n : ℕ) : '-' ∉ decimalDigits n := by
  intro h
  exact absurd (isDigit_of_mem h) (by decide)

theorem signed_decimalDigits_inj {a b : Bool} {m n : ℕ}
    (h : signed a (decimalDigits m) = signed b (decimalDigits n)) : a = b ∧ m = n := by
  have hdigits (h : decimalDigits m = decimalDigits n) : m = n := by
    rw [← ofDigitChars_decimalDigits m, h, ofDigitChars_decimalDigits]
  cases a with
  | false =>
    cases b with
    | false => exact ⟨rfl, hdigits h⟩
    | true =>
      change decimalDigits m = '-' :: decimalDigits n at h
      exact absurd (h ▸ List.mem_cons_self) (sign_not_mem_decimalDigits m)
  | true =>
    cases b with
    | false =>
      change '-' :: decimalDigits m = decimalDigits n at h
      exact absurd (h ▸ List.mem_cons_self) (sign_not_mem_decimalDigits n)
    | true => exact ⟨rfl, hdigits (List.cons.inj h).2⟩

theorem toString_inj {i j : ℤ} (h : toString i = toString j) : i = j := by
  rw [toString_eq_signed, toString_eq_signed, String.ofList_inj] at h
  obtain ⟨hsign, hdigits⟩ := signed_decimalDigits_inj h
  rw [decide_eq_decide] at hsign
  omega

/-- The whole number has up to 53 bits, or is what the digits of the float that it becomes show. -/
def ShowsExactly (i : ℤ) : Prop :=
  i.natAbs ≤ 2 ^ 53 ∨ ∃ p d, kind (ofInt i) = .finite p ∧ p.IsShown d ∧ d.size = i.natAbs

theorem mantissa_ne_zero_of_isShown (h : p.IsShown d) : p.mantissa ≠ 0 := by
  intro hm
  have hfine := h.fine
  rw [Parts.size_eq_zero hm] at hfine
  exact absurd hfine (not_le.mpr (by positivity))

/-- A float that is coarser than the whole numbers is larger than those that show as integers. -/
theorem exponent_nonpos_of_size_lt (hp : p.IsFloat) (h : p.size < 9000000000000000) :
    p.exponent ≤ 0 := by
  by_contra he
  have hfull : (2 ^ 52 : ℚ) ≤ p.mantissa := by exact_mod_cast hp.full (by omega)
  have hpow : (2 : ℚ) ^ (1 : ℤ) ≤ 2 ^ p.exponent := zpow_le_zpow_right₀ (by norm_num) (by omega)
  have hleast : (2 ^ 52 : ℚ) * 2 ^ (1 : ℤ) ≤ p.size :=
    mul_le_mul hfull hpow (by positivity) (by positivity)
  norm_num at hleast
  linarith

theorem eq_of_whole?_ofInt (hk : kind (ofInt i) = .finite p) {j : ℤ}
    (hw : whole? (ofInt i) = some j) (hread : p.interval.Contains (i.natAbs : ℕ)) : j = i := by
  obtain ⟨n, hn, hless, hj⟩ := (whole?_eq_some_iff hk).mp hw
  have hlt : p.size < 9000000000000000 := by
    rw [hn]
    exact_mod_cast hless
  have hsame := eq_size_of_contains
    (exponent_nonpos_of_size_lt (isFloat_of_kind hk) hlt) hread
  rw [hn, Nat.cast_inj] at hsame
  rw [hj, negative_of_kind_ofInt hk, hsame]
  split_ifs with hneg
  · have := of_decide_eq_true hneg
    omega
  · have := of_decide_eq_false (Bool.not_eq_true _ ▸ hneg)
    omega

theorem display_of_isShown (hk : kind (ofInt i) = .finite p) (hd : p.IsShown d)
    (hsize : d.size = i.natAbs) : display (ofInt i) = toString i := by
  have hp := isFloat_of_kind hk
  have hm := mantissa_ne_zero_of_isShown hd
  have hread := hd.readBack
  rw [hsize] at hread
  cases hw : whole? (ofInt i) with
  | some j => rw [display, hw, eq_of_whole?_ofInt hk hw hread]
  | none =>
    have hne : i.natAbs ≠ 0 := by
      intro hzero
      rw [hzero, Nat.cast_zero] at hread
      exact Parts.not_contains_zero hm hread
    have hwhole : p.IsWhole := by
      rcases le_or_gt p.exponent 0 with he | he
      · exact ⟨_, eq_size_of_contains he hread⟩
      · exact isWhole_of_nonneg he.le
    have hdigits := (size_shortest_up_eq_iff hp hm _).mpr ⟨d, hd, hsize⟩
    rw [display, hw]
    change plain (ofInt i) = _
    rw [plain_eq hk, positional_of_size hne hdigits (exponent_shortest_nonneg hp hwhole _),
      negative_of_kind_ofInt hk, toString_eq_signed]

/-- A word is no numeral. -/
theorem plain_ne_toString (hk : ∀ p, kind x ≠ .finite p) (i : ℤ) : plain x ≠ toString i := by
  intro heq
  cases hx : kind x with
  | finite p => exact hk p hx
  | infinite negative =>
    have hmem : 'i' ∈ (plain x).toList := by
      simp only [plain, hx, String.toList_ofList]
      exact mem_signed (by decide)
    rw [heq] at hmem
    exact not_mem_toString (by decide) rfl i hmem
  | nan =>
    have hmem : 'N' ∈ (plain x).toList := by
      simp only [plain, hx]
      decide
    rw [heq] at hmem
    exact not_mem_toString (by decide) rfl i hmem

theorem isShown_of_plain (hk : kind (ofInt i) = .finite p) (hi : i ≠ 0)
    (heq : plain (ofInt i) = toString i) : ∃ d, p.IsShown d ∧ d.size = i.natAbs := by
  have hp := isFloat_of_kind hk
  rw [plain_eq hk, toString_eq_signed, negative_of_kind_ofInt hk, signed_inj] at heq
  have hsize := size_of_positional_eq heq
  have hm : p.mantissa ≠ 0 := by
    intro hm
    rw [shortest_zero hm, Decimal.size, Nat.cast_zero, zero_mul, eq_comm, Nat.cast_eq_zero,
      Int.natAbs_eq_zero] at hsize
    exact hi hsize
  exact (size_shortest_up_eq_iff hp hm _).mp hsize

theorem isShown_of_display (h : 2 ^ 53 < i.natAbs) (heq : display (ofInt i) = toString i) :
    ∃ p d, kind (ofInt i) = .finite p ∧ p.IsShown d ∧ d.size = i.natAbs := by
  cases hw : whole? (ofInt i) with
  | some j =>
    rw [display, hw] at heq
    have hless := natAbs_lt_of_whole? hw
    rw [toString_inj heq] at hless
    omega
  | none =>
    rw [display, hw] at heq
    change plain (ofInt i) = _ at heq
    obtain ⟨p, hk⟩ : ∃ p, kind (ofInt i) = .finite p := by
      by_contra hnone
      exact plain_ne_toString (not_exists.mp hnone) i heq
    obtain ⟨d, hd, hsize⟩ := isShown_of_plain hk (by omega) heq
    exact ⟨p, d, hk, hd, hsize⟩

/-- Beyond 53 bits the numeral is displayed where it is what the shortest digits stand for. -/
theorem display_ofInt_iff (i : ℤ) : display (ofInt i) = toString i ↔ ShowsExactly i := by
  constructor
  · intro heq
    rcases le_or_gt i.natAbs (2 ^ 53) with h | h
    · exact .inl h
    · exact .inr (isShown_of_display h heq)
  · rintro (h | ⟨p, d, hk, hd, hsize⟩)
    · exact display_ofInt h
    · exact display_of_isShown hk hd hsize

/-- Some numbers of more bits are displayed exactly as well. -/
example : display (ofInt 18014398509481984) = "18014398509481984" := by decide +kernel

end AppDef.Number
