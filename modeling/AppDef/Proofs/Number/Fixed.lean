import AppDef.Proofs.Number.Notation

namespace AppDef.Number

variable {places count num den : ℕ} {x : Float} {p : Parts}

/-- The whole number is the nearest one, and the even one of two that are as near. -/
structure IsRounded (r : ℚ) (count : ℕ) : Prop where
  near : |count - r| ≤ 1 / 2
  even : |count - r| = 1 / 2 → Even count

/-- Halfway between two whole numbers the even one is taken. -/
theorem even_roundDiv (hden : 0 < den)
    (h : 2 * num = (2 * roundDiv num den .toEven + 1) * den ∨
      2 * roundDiv num den .toEven * den = 2 * num + den) : Even (roundDiv num den .toEven) := by
  have hnum := Nat.div_add_mod num den
  have hlt := Nat.mod_lt num hden
  unfold roundDiv at *
  dsimp only at *
  generalize num / den = q at *
  generalize num % den = r at *
  subst hnum
  split_ifs at * with hless hmore
  · rcases h with h | h <;> nlinarith
  · rcases h with h | h <;> nlinarith
  · rw [Nat.even_iff]
    omega

theorem isRounded_roundDiv {r : ℚ} (hden : 0 < den) (hr : r * den = num) :
    IsRounded r (roundDiv num den .toEven) := by
  have hpos : (0 : ℚ) < den := by exact_mod_cast hden
  obtain ⟨hlow, hhigh⟩ := roundDiv_near num hden .toEven
  have heven := @even_roundDiv num den hden
  generalize roundDiv num den .toEven = c at *
  rw [← Nat.cast_le (α := ℚ)] at hlow hhigh
  rw [← Nat.cast_inj (R := ℚ), ← Nat.cast_inj (R := ℚ)] at heven
  push_cast at hlow hhigh heven
  rw [← hr] at hlow hhigh heven
  constructor
  · rw [abs_le]
    constructor <;> nlinarith
  · intro h
    apply heven
    rcases (abs_eq (by norm_num)).mp h with h | h
    · right
      have hc : (c : ℚ) = r + 1 / 2 := by linarith
      rw [hc]
      ring
    · left
      have hc : (c : ℚ) = r - 1 / 2 := by linarith
      rw [hc]
      ring

/-- The number in units of the last of its places. -/
def Parts.inUnits (p : Parts) (places : ℕ) : Parts :=
  { p with mantissa := p.mantissa * 10 ^ places }

theorem Parts.size_inUnits (p : Parts) (places : ℕ) :
    (p.inUnits places).size = p.size * 10 ^ places := by
  simp only [size, inUnits]
  push_cast
  ring

/-- How many units of the last place the number is rounded to. -/
def Parts.units (p : Parts) (places : ℕ) : ℕ :=
  roundDiv (unscale (p.inUnits places).mantissa 1 (-p.exponent)).1
    (unscale (p.inUnits places).mantissa 1 (-p.exponent)).2 .toEven

theorem Parts.isRounded_units (p : Parts) (places : ℕ) :
    IsRounded (p.size * 10 ^ places) (p.units places) := by
  rw [← p.size_inUnits]
  exact isRounded_roundDiv (unscale_snd_pos _ _) (size_mul_unscale (p.inUnits places))

/-- Without its last digits a numeral is that of a quotient. -/
theorem take_decimalDigits (h : places < (decimalDigits count).length) :
    (decimalDigits count).take ((decimalDigits count).length - places) =
      decimalDigits (count / 10 ^ places) := by
  induction places generalizing count with
  | zero => simp
  | succ places ih =>
    have hten : 10 ≤ count := by
      by_contra hlt
      have hone : decimalDigits count = [count.digitChar] :=
        Nat.toDigits_of_lt_base (not_le.mp hlt)
      rw [hone] at h
      simp at h
    have hlast : decimalDigits count = decimalDigits (count / 10) ++ [(count % 10).digitChar] :=
      Nat.toDigits_of_base_le (by decide) hten
    rw [hlast, List.length_append, List.length_singleton] at h ⊢
    have hcount : (decimalDigits (count / 10)).length + 1 - (places + 1) =
        (decimalDigits (count / 10)).length - places := by omega
    rw [hcount, List.take_append_of_le_length (Nat.sub_le _ _), ih (by omega),
      Nat.div_div_eq_div_mul, ← Nat.pow_succ']

/-- The digits of a whole number behind zeros, so that one stands before its places. -/
def padded (places count : ℕ) : List Char :=
  zeros (places + 1 - (decimalDigits count).length) ++ decimalDigits count

theorem lt_length_padded (places count : ℕ) : places < (padded places count).length := by
  rw [padded, List.length_append, zeros, List.length_replicate]
  omega

theorem isDigit_of_mem_padded {d : Char} (h : d ∈ padded places count) : d.isDigit = true := by
  rcases List.mem_append.mp h with h | h
  · exact isDigit_of_mem_zeros h
  · exact isDigit_of_mem h

theorem ofDigitChars_padded (places count : ℕ) :
    Nat.ofDigitChars 10 (padded places count) 0 = count := by
  rw [padded, Nat.ofDigitChars_append, zeros, Nat.ofDigitChars_replicate_zero]
  exact ofDigitChars_decimalDigits count

theorem take_padded (places count : ℕ) :
    (padded places count).take ((padded places count).length - places) =
      decimalDigits (count / 10 ^ places) := by
  rcases Nat.lt_or_ge places (decimalDigits count).length with h | h
  · have hpadded : padded places count = decimalDigits count := by
      rw [padded, Nat.sub_eq_zero_of_le h]
      rfl
    rw [hpadded, take_decimalDigits h]
  · have hlength : (padded places count).length = places + 1 := by
      rw [padded, List.length_append, zeros, List.length_replicate]
      omega
    have hzero : count / 10 ^ places = 0 :=
      Nat.div_eq_of_lt ((lt_pow_length count).trans_le (Nat.pow_le_pow_right (by decide) h))
    have hone : places + 1 - places = 1 := by omega
    obtain ⟨n, hn⟩ : ∃ n, places + 1 - (decimalDigits count).length = n + 1 :=
      ⟨places - (decimalDigits count).length, by omega⟩
    rw [hlength, hone, hzero, padded, hn, zeros, List.replicate_succ]
    rfl

/-- The digits before and behind the point, of a count of units of the last place. -/
structure IsSplit (places count : ℕ) (whole fraction : List Char) : Prop where
  whole : whole = decimalDigits (count / 10 ^ places)
  length : fraction.length = places
  digits : ∀ d ∈ fraction, d.isDigit = true
  value : Nat.ofDigitChars 10 fraction 0 = count % 10 ^ places

namespace IsSplit

variable {whole fraction : List Char} {d : Char}

theorem isDigit_of_mem_whole (h : IsSplit places count whole fraction) (hd : d ∈ whole) :
    d.isDigit = true := by
  rw [h.whole] at hd
  exact isDigit_of_mem hd

theorem whole_ne_nil (h : IsSplit places count whole fraction) : whole ≠ [] := by
  rw [h.whole]
  exact decimalDigits_ne_nil _

/-- Nothing but digits and the point stands in the text. -/
theorem not_mem (h : IsSplit places count whole fraction) (hpoint : d ≠ '.')
    (hdigit : d.isDigit = false) : d ∉ whole ++ '.' :: fraction := by
  have hwhole := not_mem_of_isDigit (fun _ => h.isDigit_of_mem_whole) hdigit
  have hfraction := not_mem_of_isDigit h.digits hdigit
  simp [hwhole, hpoint, hfraction]

end IsSplit

theorem positional_padded (h : 0 < places) (count : ℕ) :
    ∃ whole fraction, positional (padded places count) (-places) = whole ++ '.' :: fraction ∧
      IsSplit places count whole fraction := by
  have hlength := lt_length_padded places count
  have hvalue := ofDigitChars_padded places count
  have hdigits (d : Char) (hd : d ∈ padded places count) := isDigit_of_mem_padded hd
  have hwhole := take_padded places count
  generalize padded places count = digits at *
  have hplaces : (-(-places : ℤ)).toNat = places := by omega
  have hdrop : (digits.drop (digits.length - places)).length = places := by
    rw [List.length_drop]
    omega
  refine ⟨_, digits.drop (digits.length - places), ?_, rfl, hdrop,
    fun d hd => hdigits d (List.mem_of_mem_drop hd), ?_⟩
  · simp only [positional]
    rw [hplaces, if_neg h.ne', if_pos hlength, hwhole]
  · rw [← List.take_append_drop (digits.length - places) digits, Nat.ofDigitChars_append, hwhole,
      ofDigitChars_decimalDigits, Nat.ofDigitChars_eq_ofDigitChars_zero, hdrop] at hvalue
    have hsplit := Nat.div_add_mod count (10 ^ places)
    omega

theorem fixed_eq (hk : kind x = .finite p) : fixed places x =
    String.ofList (signed p.negative (positional (padded places (p.units places)) (-places))) := by
  simp only [fixed, hk]
  rfl

/-- The text of a number with places is that of the nearest count of units of the last one. -/
theorem fixed_spec (hk : kind x = .finite p) (h : 0 < places) :
    ∃ count whole fraction, IsRounded (p.size * 10 ^ places) count ∧
      IsSplit places count whole fraction ∧
      (fixed places x).toList = signed p.negative (whole ++ '.' :: fraction) := by
  obtain ⟨whole, fraction, htext, hsplit⟩ := positional_padded h (p.units places)
  refine ⟨_, whole, fraction, p.isRounded_units places, hsplit, ?_⟩
  rw [fixed_eq hk, String.toList_ofList, htext]

end AppDef.Number
