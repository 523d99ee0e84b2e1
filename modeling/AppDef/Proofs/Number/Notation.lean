import AppDef.Number.Notation
import AppDef.Proofs.Number.Shortest

namespace AppDef.Number

variable {c c' n : ℕ} {k k' : ℤ} {x : Float} {p : Parts} {i : ℤ}

theorem isDigit_of_mem {d : Char} (h : d ∈ decimalDigits c) : d.isDigit = true :=
  Nat.isDigit_of_mem_toDigits (by decide) (by decide) h

theorem ofDigitChars_decimalDigits (c : ℕ) : Nat.ofDigitChars 10 (decimalDigits c) 0 = c :=
  Nat.ofDigitChars_ten_toDigits

theorem length_decimalDigits_pos (c : ℕ) : 0 < (decimalDigits c).length :=
  Nat.length_toDigits_pos

theorem lt_pow_length (c : ℕ) : c < 10 ^ (decimalDigits c).length :=
  (Nat.length_toDigits_le_iff (by decide) (length_decimalDigits_pos c)).mp le_rfl

theorem pow_length_le (hc : c ≠ 0) : 10 ^ ((decimalDigits c).length - 1) ≤ c := by
  have hpos := length_decimalDigits_pos c
  by_contra hlt
  rcases Nat.eq_zero_or_pos ((decimalDigits c).length - 1) with hone | hmore
  · rw [hone] at hlt
    omega
  · have hshort : (decimalDigits c).length ≤ (decimalDigits c).length - 1 :=
      (Nat.length_toDigits_le_iff (by decide) hmore).mpr (not_le.mp hlt)
    omega

/-- A coefficient and its count of digits put a decimal between two powers of ten. -/
theorem power_bounds (hc : c ≠ 0) (k : ℤ) :
    (10 : ℚ) ^ (k + (decimalDigits c).length - 1) ≤ c * 10 ^ k ∧
      (c * 10 ^ k : ℚ) < 10 ^ (k + (decimalDigits c).length - 1 + 1) := by
  have hpos := length_decimalDigits_pos c
  have hleast := pow_length_le hc
  have hmost := lt_pow_length c
  generalize (decimalDigits c).length = len at *
  obtain ⟨l, rfl⟩ : ∃ l, len = l + 1 := ⟨len - 1, by omega⟩
  rw [Nat.add_sub_cancel] at hleast
  have hleast : (10 ^ l : ℚ) ≤ c := by exact_mod_cast hleast
  have hmost : (c : ℚ) < 10 ^ (l + 1) := by exact_mod_cast hmost
  have hten : (0 : ℚ) < 10 ^ k := by positivity
  have hpower : k + ((l + 1 : ℕ) : ℤ) - 1 = l + k := by push_cast; omega
  have hnext : k + ((l + 1 : ℕ) : ℤ) - 1 + 1 = (l + 1 : ℕ) + k := by omega
  constructor
  · rw [hpower, zpow_add₀ (by norm_num), zpow_natCast]
    exact mul_le_mul_of_nonneg_right hleast hten.le
  · rw [hnext, zpow_add₀ (by norm_num), zpow_natCast]
    exact mul_lt_mul_of_pos_right hmost hten

theorem isDigit_of_mem_zeros {d : Char} (h : d ∈ zeros n) : d.isDigit = true := by
  cases List.eq_of_mem_replicate h
  rfl

/-- Behind the point stand as many digits as there are places. -/
theorem positional_of_neg (h : k < 0) (c : ℕ) : ∃ whole fraction : List Char,
    positional (decimalDigits c) k = whole ++ '.' :: fraction ∧
      fraction.length = (-k).toNat ∧ (∀ d ∈ whole ++ fraction, d.isDigit = true) ∧
      Nat.ofDigitChars 10 (whole ++ fraction) 0 = c := by
  have hdigits : ∀ d ∈ decimalDigits c, d.isDigit = true := fun d hd => isDigit_of_mem hd
  have hvalue := ofDigitChars_decimalDigits c
  unfold positional
  dsimp only
  generalize decimalDigits c = digits at *
  rw [if_neg (by omega)]
  split_ifs with hinside
  · refine ⟨_, _, rfl, ?_, ?_, ?_⟩
    · rw [List.length_drop]
      omega
    · rwa [List.take_append_drop]
    · rwa [List.take_append_drop]
  · refine ⟨['0'], zeros ((-k).toNat - digits.length) ++ digits, rfl, ?_, ?_, ?_⟩
    · rw [List.length_append, zeros, List.length_replicate]
      omega
    · intro d hd
      rcases List.mem_append.mp hd with hd | hd
      · cases List.mem_singleton.mp hd
        rfl
      · rcases List.mem_append.mp hd with hd | hd
        · exact isDigit_of_mem_zeros hd
        · exact hdigits d hd
    · rw [Nat.ofDigitChars_append, Nat.ofDigitChars_append, zeros, Nat.ofDigitChars_replicate_zero]
      exact hvalue

theorem positional_of_nonneg (h : 0 ≤ k) (c : ℕ) :
    positional (decimalDigits c) k = decimalDigits c ++ zeros k.toNat := by
  rw [positional, if_pos (by omega)]

theorem not_mem_of_isDigit {s : List Char} {d : Char} (hs : ∀ c ∈ s, c.isDigit = true)
    (hd : d.isDigit = false) : d ∉ s := by
  intro h
  rw [hs d h] at hd
  cases hd

theorem isDigit_of_mem_positional (h : 0 ≤ k) {d : Char}
    (hd : d ∈ positional (decimalDigits c) k) : d.isDigit = true := by
  rw [positional_of_nonneg h] at hd
  rcases List.mem_append.mp hd with hd | hd
  · exact isDigit_of_mem hd
  · exact isDigit_of_mem_zeros hd

/-- A positional text has a point exactly when it has places behind it. -/
theorem point_mem_positional_iff : '.' ∈ positional (decimalDigits c) k ↔ k < 0 := by
  constructor
  · intro hmem
    by_contra h
    exact absurd (isDigit_of_mem_positional (not_lt.mp h) hmem) (by decide)
  · intro h
    obtain ⟨whole, fraction, htext, -⟩ := positional_of_neg h c
    rw [htext]
    exact List.mem_append_right _ List.mem_cons_self

theorem eq_or_isDigit_of_mem_positional {d : Char} (h : d ∈ positional (decimalDigits c) k) :
    d = '.' ∨ d.isDigit = true := by
  rcases lt_or_ge k 0 with hk | hk
  · obtain ⟨whole, fraction, htext, -, hdigits, -⟩ := positional_of_neg hk c
    rw [htext, List.mem_append, List.mem_cons] at h
    rcases h with h | h | h
    · exact .inr (hdigits _ (List.mem_append_left _ h))
    · exact .inl h
    · exact .inr (hdigits _ (List.mem_append_right _ h))
  · exact .inr (isDigit_of_mem_positional hk h)

theorem exponent_not_mem_positional : 'e' ∉ positional (decimalDigits c) k := by
  intro hmem
  rcases eq_or_isDigit_of_mem_positional hmem with h | h
  · cases h
  · cases h

theorem exponent_mem_scientific (digits : List Char) (power : ℤ) :
    'e' ∈ scientific digits power := by
  unfold scientific
  exact List.mem_append_right _ List.mem_cons_self

/-- Of numbers that have a fraction, the text tells the coefficient and the places. -/
theorem positional_inj (h : k < 0) (h' : k' < 0)
    (heq : positional (decimalDigits c) k = positional (decimalDigits c') k') :
    c = c' ∧ k = k' := by
  obtain ⟨whole, fraction, htext, hlength, hdigits, hvalue⟩ := positional_of_neg h c
  obtain ⟨whole', fraction', htext', hlength', -, hvalue'⟩ := positional_of_neg h' c'
  have hpoint : '.' ∉ whole ++ fraction := not_mem_of_isDigit hdigits rfl
  obtain ⟨hwhole, hfraction⟩ := not_or.mp (mt List.mem_append.mpr hpoint)
  rw [htext, htext', List.append_cons_inj_of_notMem hwhole hfraction] at heq
  obtain ⟨rfl, -, rfl⟩ := heq
  exact ⟨hvalue.symm.trans hvalue', by omega⟩

/-- The number has a fraction, is not all too small, and does not lie between two shortest forms. -/
structure Parts.PrintsAlike (p : Parts) : Prop where
  fraction : ¬ p.IsWhole
  large : 10 ^ (-5 : ℤ) ≤ p.size
  noTie : ¬ p.IsTied

theorem signed_inj {s t : List Char} {negative : Bool} :
    String.ofList (signed negative s) = String.ofList (signed negative t) ↔ s = t := by
  rw [String.ofList_inj]
  cases negative with
  | false => exact Iff.rfl
  | true => exact List.cons_inj_right _

theorem eq_or_mem_of_mem_signed {s : List Char} {negative : Bool} {d : Char}
    (h : d ∈ signed negative s) : d = '-' ∨ d ∈ s := by
  cases negative with
  | false => exact .inr h
  | true => exact List.mem_cons.mp h

theorem mem_signed {s : List Char} {negative : Bool} {d : Char} (h : d ∈ s) :
    d ∈ signed negative s := by
  cases negative with
  | false => exact h
  | true => exact List.mem_cons_of_mem _ h

/-- The compact form without its sign. -/
def compactText (d : Decimal) : List Char :=
  let digits := decimalDigits d.coefficient
  let power := d.exponent + digits.length - 1
  if -5 ≤ power && power < 16 then
    positional digits d.exponent ++ if 0 ≤ d.exponent then ['.', '0'] else []
  else scientific digits power

theorem compact_eq (hk : kind x = .finite p) :
    compact x = String.ofList (signed p.negative
      (compactText (shortest .toEven p.mantissa p.exponent))) := by
  simp only [compact, hk]
  rfl

theorem plain_eq (hk : kind x = .finite p) :
    plain x = String.ofList (signed p.negative
      (positional (decimalDigits (shortest .up p.mantissa p.exponent).coefficient)
        (shortest .up p.mantissa p.exponent).exponent)) := by
  simp only [plain, hk]

/-- A compact text without an exponent or an added zero is the positional one. -/
theorem compactText_of_size {d : Decimal} (hexponent : d.exponent < 0)
    (hleast : 10 ^ (-5 : ℤ) ≤ d.size) (hmost : d.size < 10 ^ 16) :
    compactText d = positional (decimalDigits d.coefficient) d.exponent := by
  have hcount : d.coefficient ≠ 0 := by
    intro hcount
    rw [Decimal.size, hcount, Nat.cast_zero, zero_mul] at hleast
    exact absurd hleast (not_le.mpr (by positivity))
  obtain ⟨hlow, hhigh⟩ := power_bounds hcount d.exponent
  change _ ≤ d.size at hlow
  change d.size < _ at hhigh
  have hsmall := (zpow_lt_zpow_iff_right₀ (by norm_num)).mp (hleast.trans_lt hhigh)
  have hlarge : d.exponent + (decimalDigits d.coefficient).length - 1 < (16 : ℕ) := by
    refine (zpow_lt_zpow_iff_right₀ (a := (10 : ℚ)) (by norm_num)).mp ?_
    rw [zpow_natCast]
    exact hlow.trans_lt hmost
  have hpower : (decide (-5 ≤ d.exponent + (decimalDigits d.coefficient).length - 1) &&
      decide (d.exponent + (decimalDigits d.coefficient).length - 1 < 16)) = true := by
    rw [Bool.and_eq_true, decide_eq_true_eq, decide_eq_true_eq]
    omega
  simp only [compactText]
  rw [if_pos hpower, if_neg (not_le.mpr hexponent), List.append_nil]

theorem power_lt_of_size {d : Decimal} (hcount : d.coefficient ≠ 0)
    (h : d.size < 10 ^ (-5 : ℤ)) :
    d.exponent + (decimalDigits d.coefficient).length - 1 < -5 :=
  (zpow_lt_zpow_iff_right₀ (by norm_num)).mp ((power_bounds hcount d.exponent).1.trans_lt h)

theorem compactText_ne_of_tiny {d : Decimal} (hcount : d.coefficient ≠ 0)
    (h : d.size < 10 ^ (-5 : ℤ)) : compactText d ≠ positional (decimalDigits c) k := by
  have hpower := power_lt_of_size hcount h
  intro heq
  simp only [compactText] at heq
  rw [if_neg (by rw [Bool.and_eq_true, decide_eq_true_eq]; omega)] at heq
  exact exponent_not_mem_positional (heq ▸ exponent_mem_scientific _ _)

/-- Of a whole number the compact form has a point or an exponent. -/
theorem mark_mem_compactText {d : Decimal} (h : 0 ≤ d.exponent) :
    '.' ∈ compactText d ∨ 'e' ∈ compactText d := by
  simp only [compactText]
  split_ifs
  · exact .inl (List.mem_append_right _ List.mem_cons_self)
  · exact .inr (exponent_mem_scientific _ _)

theorem compactText_ne_of_nonneg {d : Decimal} (h : 0 ≤ d.exponent) (hk : 0 ≤ k) :
    compactText d ≠ positional (decimalDigits c) k := by
  intro heq
  rcases mark_mem_compactText h with hpoint | hexponent
  · rw [heq, point_mem_positional_iff] at hpoint
    exact absurd hpoint (not_lt.mpr hk)
  · rw [heq] at hexponent
    exact exponent_not_mem_positional hexponent

theorem exponent_shortest_nonneg (hp : p.IsFloat) (hw : p.IsWhole) (tie : Tie) :
    0 ≤ (shortest tie p.mantissa p.exponent).exponent :=
  not_lt.mp (mt (exponent_shortest_neg_iff hp tie).mp (not_not.mpr hw))

theorem compact_ne_plain_of_isWhole (hk : kind x = .finite p) (hw : p.IsWhole) :
    compact x ≠ plain x := by
  have hp := isFloat_of_kind hk
  rw [compact_eq hk, plain_eq hk, Ne, signed_inj]
  exact compactText_ne_of_nonneg (exponent_shortest_nonneg hp hw _)
    (exponent_shortest_nonneg hp hw _)

theorem compact_ne_plain_of_tiny (hk : kind x = .finite p) (hm : p.mantissa ≠ 0)
    (h : p.size < 10 ^ (-5 : ℤ)) : compact x ≠ plain x := by
  have hp := isFloat_of_kind hk
  have hcount := Parts.count_ne_zero hm (contains_shortest hp hm .toEven)
  have hlt := not_le.mp (mt (tiny_le_size_shortest_iff hp .toEven).mp (not_le.mpr h))
  rw [compact_eq hk, plain_eq hk, Ne, signed_inj]
  exact compactText_ne_of_tiny hcount hlt

/-- A fraction that is no smaller than `10 ^ (-5)` has one form if it has one row of digits. -/
theorem compact_eq_plain_iff_of_fraction (hk : kind x = .finite p) (hw : ¬ p.IsWhole)
    (h : 10 ^ (-5 : ℤ) ≤ p.size) : compact x = plain x ↔ ¬ p.IsTied := by
  have hp := isFloat_of_kind hk
  have hneg (tie : Tie) := (exponent_shortest_neg_iff hp tie).mpr hw
  have hleast := (tiny_le_size_shortest_iff hp .toEven).mpr h
  rw [← shortest_ne_iff hp, not_not, compact_eq hk, plain_eq hk, signed_inj,
    compactText_of_size (hneg _) hleast (size_shortest_lt hp hw _)]
  constructor
  · intro heq
    obtain ⟨hcount, hplace⟩ := positional_inj (hneg _) (hneg _) heq
    exact Decimal.eq_of_fields hcount hplace
  · intro heq
    rw [heq]

theorem compact_eq_plain_iff (hk : kind x = .finite p) :
    compact x = plain x ↔ p.PrintsAlike := by
  constructor
  · intro heq
    have hfraction : ¬ p.IsWhole := fun hw => compact_ne_plain_of_isWhole hk hw heq
    have hm : p.mantissa ≠ 0 := fun hm => hfraction (isWhole_of_mantissa_eq_zero hm)
    have hlarge : 10 ^ (-5 : ℤ) ≤ p.size := by
      by_contra hlt
      exact compact_ne_plain_of_tiny hk hm (not_le.mp hlt) heq
    exact ⟨hfraction, hlarge, (compact_eq_plain_iff_of_fraction hk hfraction hlarge).mp heq⟩
  · rintro ⟨hfraction, hlarge, hnone⟩
    exact (compact_eq_plain_iff_of_fraction hk hfraction hlarge).mpr hnone

theorem decimalDigits_mul_pow (hc : 0 < c) (j : ℕ) :
    decimalDigits (c * 10 ^ j) = decimalDigits c ++ zeros j := by
  induction j with
  | zero => simp [zeros]
  | succ j ih =>
    have hpos : 0 < c * 10 ^ j := by positivity
    have happend := Nat.toDigits_append_toDigits (b := 10) (by decide) hpos (by decide : 0 < 10)
    have hnext : c * 10 ^ (j + 1) = 10 * (c * 10 ^ j) + 0 := by ring
    rw [hnext, decimalDigits, ← happend, Nat.toDigits_zero]
    change decimalDigits (c * 10 ^ j) ++ ['0'] = _
    rw [ih, zeros, zeros, List.replicate_succ', List.append_assoc]

theorem positional_of_size {d : Decimal} (hn : n ≠ 0) (hsize : d.size = n)
    (h : 0 ≤ d.exponent) :
    positional (decimalDigits d.coefficient) d.exponent = decimalDigits n := by
  obtain ⟨j, hj⟩ := Int.eq_ofNat_of_zero_le h
  rw [positional_of_nonneg h]
  rw [Decimal.size, hj, zpow_natCast] at hsize
  have hsize : d.coefficient * 10 ^ j = n := by exact_mod_cast hsize
  have hcount : 0 < d.coefficient := by
    rcases Nat.eq_zero_or_pos d.coefficient with hcount | hcount
    · rw [hcount, Nat.zero_mul] at hsize
      exact absurd hsize.symm hn
    · exact hcount
  rw [← hsize, decimalDigits_mul_pow hcount, hj, Int.toNat_natCast]

theorem toString_eq_signed (i : ℤ) :
    toString i = String.ofList (signed (decide (i < 0)) (decimalDigits i.natAbs)) := by
  cases i with
  | ofNat n => exact Nat.repr_eq_ofList_toDigits
  | negSucc n =>
    have hnegative : decide (Int.negSucc n < 0) = true := decide_eq_true (Int.negSucc_lt_zero n)
    rw [hnegative]
    change "-" ++ Nat.repr (n + 1) = String.ofList ('-' :: decimalDigits (n + 1))
    rw [Nat.repr_eq_ofList_toDigits]
    exact (@String.ofList_append ['-'] _).symm

theorem whole?_ofInt (h : i.natAbs < 9000000000000000) : whole? (ofInt i) = some i := by
  obtain ⟨p, hk, hnegative, hsize⟩ := kind_ofInt (i := i) (by omega)
  refine (whole?_eq_some_iff hk).mpr ⟨i.natAbs, hsize, h, ?_⟩
  rw [hnegative]
  split_ifs with hlt
  · have := of_decide_eq_true hlt
    omega
  · have := of_decide_eq_false (Bool.not_eq_true _ ▸ hlt)
    omega

/-- Whole numbers of up to 53 bits are displayed as they are. -/
theorem display_ofInt (h : i.natAbs ≤ 2 ^ 53) : display (ofInt i) = toString i := by
  unfold display
  by_cases hlt : i.natAbs < 9000000000000000
  · rw [whole?_ofInt hlt]
  · obtain ⟨p, hk, hnegative, hsize⟩ := kind_ofInt h
    have hnone : whole? (ofInt i) = none := by
      rw [Option.eq_none_iff_forall_ne_some]
      intro j hj
      obtain ⟨n, hn, hless, -⟩ := (whole?_eq_some_iff hk).mp hj
      rw [hsize, Nat.cast_inj] at hn
      omega
    have hp := isFloat_of_kind hk
    have hwhole : p.IsWhole := ⟨_, hsize⟩
    have hmost : p.size ≤ 2 ^ 53 := by
      rw [hsize]
      exact_mod_cast h
    have hdigits := (size_shortest_of_isWhole hp hwhole hmost .up).trans hsize
    rw [hnone]
    change plain (ofInt i) = _
    rw [plain_eq hk, positional_of_size (by omega) hdigits (exponent_shortest_nonneg hp hwhole _),
      hnegative, toString_eq_signed]

theorem eq_or_isDigit_of_mem_toString {d : Char} (h : d ∈ (toString i).toList) :
    d = '-' ∨ d.isDigit = true := by
  rw [toString_eq_signed, String.toList_ofList] at h
  rcases eq_or_mem_of_mem_signed h with h | h
  · exact .inl h
  · exact .inr (isDigit_of_mem h)

theorem not_mem_toString {d : Char} (hsign : d ≠ '-') (hdigit : d.isDigit = false) (i : ℤ) :
    d ∉ (toString i).toList := by
  intro h
  rcases eq_or_isDigit_of_mem_toString h with h | h
  · exact hsign h
  · rw [hdigit] at h
    cases h

/-- The compact form is what is displayed for the same numbers for which it is the plain form: where
whole numbers are displayed as integers it has a point or an exponent. -/
theorem compact_eq_display_iff_of_kind (hk : kind x = .finite p) :
    compact x = display x ↔ p.PrintsAlike := by
  cases hw : whole? x with
  | none =>
    rw [← compact_eq_plain_iff hk, display, hw]
  | some i =>
    obtain ⟨n, hsize, -⟩ := (whole?_eq_some_iff hk).mp hw
    have hwhole : p.IsWhole := ⟨n, hsize⟩
    have hnonneg := exponent_shortest_nonneg (isFloat_of_kind hk) hwhole .toEven
    have hdisplay : display x = toString i := by rw [display, hw]
    refine iff_of_false (fun heq => ?_) (fun halike => halike.fraction hwhole)
    have hpoint := not_mem_toString (d := '.') (by decide) rfl i
    have hexponent := not_mem_toString (d := 'e') (by decide) rfl i
    rw [← hdisplay, ← heq, compact_eq hk, String.toList_ofList] at hpoint hexponent
    rcases mark_mem_compactText hnonneg with h | h
    · exact hpoint (mem_signed h)
    · exact hexponent (mem_signed h)

theorem compact_eq_display_iff (x : Float) :
    compact x = display x ↔ ∃ p, kind x = .finite p ∧ p.PrintsAlike := by
  cases hk : kind x with
  | finite p =>
    rw [compact_eq_display_iff_of_kind hk]
    constructor
    · exact fun h => ⟨p, rfl, h⟩
    · rintro ⟨_, ⟨⟩, h⟩
      exact h
  | infinite negative =>
    have hne : compact x ≠ display x := by
      simp only [compact, display, whole?, plain, hk]
      cases negative <;> decide
    refine iff_of_false hne ?_
    rintro ⟨p, hp, -⟩
    cases hp
  | nan =>
    have hne : compact x ≠ display x := by
      simp only [compact, display, whole?, plain, hk]
      decide
    refine iff_of_false hne ?_
    rintro ⟨p, hp, -⟩
    cases hp

/-- The characters of numbers that are no digits. -/
def marks : List Char :=
  ['-', '.', 'i', 'n', 'f', 'N', 'a']

theorem mem_plain {d : Char} (h : d ∈ (plain x).toList) : d ∈ marks ∨ d.isDigit = true := by
  have hsign : '-' ∈ marks := List.mem_cons_self
  cases hk : kind x with
  | finite p =>
    rw [plain_eq hk, String.toList_ofList] at h
    rcases eq_or_mem_of_mem_signed h with rfl | h
    · exact .inl hsign
    · rcases eq_or_isDigit_of_mem_positional h with rfl | h
      · exact .inl (by decide)
      · exact .inr h
  | infinite negative =>
    simp only [plain, hk, String.toList_ofList] at h
    have hword : "inf".toList ⊆ marks := by decide
    rcases eq_or_mem_of_mem_signed h with rfl | h
    · exact .inl hsign
    · exact .inl (hword h)
  | nan =>
    simp only [plain, hk] at h
    have hword : "NaN".toList ⊆ marks := by decide
    exact .inl (hword h)

theorem mem_display {d : Char} (h : d ∈ (display x).toList) : d ∈ marks ∨ d.isDigit = true := by
  unfold display at h
  cases hw : whole? x with
  | some i =>
    rw [hw] at h
    rcases eq_or_isDigit_of_mem_toString h with rfl | h
    · exact .inl List.mem_cons_self
    · exact .inr h
  | none =>
    rw [hw] at h
    exact mem_plain h

theorem signed_ne_nil {negative : Bool} {text : List Char} (h : text ≠ []) :
    signed negative text ≠ [] := by
  unfold signed
  split
  · exact List.cons_ne_nil _ _
  · exact h

theorem decimalDigits_ne_nil (c : ℕ) : decimalDigits c ≠ [] :=
  List.ne_nil_of_length_pos (length_decimalDigits_pos c)

theorem positional_ne_nil : positional (decimalDigits c) k ≠ [] := by
  by_cases hk : k < 0
  · obtain ⟨whole, fraction, htext, -⟩ := positional_of_neg hk c
    simp [htext]
  · rw [positional_of_nonneg (not_lt.mp hk)]
    exact List.append_ne_nil_of_left_ne_nil (decimalDigits_ne_nil c) _

/-- Every number is displayed by some text. -/
theorem display_ne_nil (x : Float) : (display x).toList ≠ [] := by
  unfold display
  split
  · rw [toString_eq_signed, String.toList_ofList]
    exact signed_ne_nil (decimalDigits_ne_nil _)
  · cases hk : kind x with
    | finite p =>
      simp only [plain_eq hk, String.toList_ofList]
      exact signed_ne_nil positional_ne_nil
    | infinite negative =>
      simp only [plain, hk, String.toList_ofList]
      exact signed_ne_nil (by decide)
    | nan =>
      simp only [plain, hk]
      decide

/-- The number is whole and below nine quadrillion, or one that is printed alike by both forms. -/
def ReadsAlike (x : Float) : Prop :=
  ∃ p, kind x = .finite p ∧ (p.IsWhole ∧ p.size < 9000000000000000 ∨ p.PrintsAlike)

theorem readsAlike_of_whole? (h : whole? x = some i) : ReadsAlike x := by
  obtain ⟨p, n, hk, hsize, hless, -⟩ := kind_of_whole? h
  refine ⟨p, hk, .inl ⟨⟨n, hsize⟩, ?_⟩⟩
  rw [hsize]
  exact_mod_cast hless

theorem readsAlike_iff_of_whole?_eq_none (h : whole? x = none) (hk : kind x = .finite p) :
    ReadsAlike x ↔ compact x = plain x := by
  rw [compact_eq_plain_iff hk]
  constructor
  · rintro ⟨q, hq, ⟨⟨n, hsize⟩, hless⟩ | halike⟩
    · rw [hsize] at hless
      have hwhole := (whole?_eq_some_iff hq).mpr ⟨n, hsize, by exact_mod_cast hless, rfl⟩
      rw [h] at hwhole
      cases hwhole
    · cases hk.symm.trans hq
      exact halike
  · exact fun halike => ⟨p, hk, .inr halike⟩

end AppDef.Number
