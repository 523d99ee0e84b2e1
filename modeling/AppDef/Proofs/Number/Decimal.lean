import AppDef.Number.Reading
import AppDef.Proofs.Text

namespace AppDef.Number

open AppDef.Text

/-- Nothing but digits. -/
def AllDigits (s : List Char) : Prop :=
  ∀ c ∈ s, isDigit c = true

/-- What stands behind the digits before the point, and the digits in it. -/
inductive Fraction : List Char → List Char → Prop
  | none : Fraction [] []
  | point {digits} (h : AllDigits digits) : Fraction ('.' :: digits) digits

/-- The sign of a power, and whether it makes the power negative. -/
inductive PowerSign : List Char → Bool → Prop
  | none : PowerSign [] false
  | plus : PowerSign ['+'] false
  | minus : PowerSign ['-'] true

/-- The number that digits behind a sign write. -/
def powerValue (negative : Bool) (digits : List Char) : Int :=
  if negative then -(digitsValue 0 digits : Int) else digitsValue 0 digits

/-- What stands behind the digits of a number, and its power of ten. -/
inductive Power : List Char → Int → Prop
  | none : Power [] 0
  | marked {mark sign negative digits} (hmark : mark = 'e' ∨ mark = 'E')
      (hsign : PowerSign sign negative) (hd : AllDigits digits) (hne : digits ≠ []) :
      Power (mark :: (sign ++ digits)) (powerValue negative digits)

/-- The characters write a number in decimal, and the float is the one nearest to it. -/
inductive Writes : List Char → Float → Prop
  | mk {whole pointed fraction raised power} (hwhole : AllDigits whole)
      (hfraction : Fraction pointed fraction) (hdigit : whole ++ fraction ≠ [])
      (hpower : Power raised power) :
      Writes (whole ++ (pointed ++ raised))
        (ofDecimal false (digitsValue 0 (whole ++ fraction)) (power - fraction.length))

variable {c d : Char} {s pointed digits raised rest : List Char} {power : Int} {x : Float}

/-- No digit comes next. -/
def NoDigit (s : List Char) : Prop :=
  ∀ c ∈ s.head?, isDigit c = false

theorem takeDigits_append (hd : AllDigits digits) (h : NoDigit rest) :
    takeDigits (digits ++ rest) = (digits, rest) := by
  have hdrop : (digits ++ rest).dropWhile isDigit = rest := dropWhile_append hd h
  have htake : digits ++ rest.takeWhile isDigit = digits := by
    cases rest with
    | nil => simp
    | cons c rest => simp [h c rfl]
  rw [takeDigits, hdrop, List.takeWhile_append_of_pos hd, htake]

theorem takeDigits_spec (s : List Char) :
    ∃ digits rest, takeDigits s = (digits, rest) ∧ s = digits ++ rest ∧ AllDigits digits ∧
      NoDigit rest := by
  refine ⟨_, _, rfl, List.takeWhile_append_dropWhile.symm, ?_, ?_⟩
  · exact fun c hc => List.mem_takeWhile_imp hc
  · intro c hc
    have hfirst := List.head?_dropWhile_not isDigit s
    rw [Option.mem_def.mp hc] at hfirst
    exact hfirst

theorem AllDigits.ne_sign (hd : AllDigits (c :: s)) : c ≠ '-' ∧ c ≠ '+' := by
  have hc : isDigit c = true := hd c List.mem_cons_self
  constructor <;> (rintro rfl; cases hc)

theorem exponent?_of {sign : List Char} {negative : Bool} (hsign : PowerSign sign negative)
    (hd : AllDigits digits) (hne : digits ≠ []) :
    exponent? (sign ++ digits) = some (powerValue negative digits) := by
  cases hsign with
  | none =>
    obtain ⟨c, t, rfl⟩ := List.exists_cons_of_ne_nil hne
    obtain ⟨hminus, hplus⟩ := hd.ne_sign
    simp_all [exponent?, AllDigits, powerValue]
  | plus => simp_all [exponent?, AllDigits, powerValue]
  | minus => simp_all [exponent?, AllDigits, powerValue]

theorem Power.noDigit (h : Power raised power) : NoDigit raised := by
  cases h with
  | none => exact fun c hc => by cases hc
  | marked hmark _ _ _ =>
    rintro c ⟨⟩
    rcases hmark with rfl | rfl <;> rfl

theorem Fraction.noDigit (hf : Fraction pointed digits) (hp : Power raised power) :
    NoDigit (pointed ++ raised) := by
  cases hf with
  | none => exact hp.noDigit
  | point _ => rintro c ⟨⟩; rfl

theorem unsigned?_of_writes (h : Writes s x) : unsigned? false s = some x := by
  obtain ⟨hwhole, hf, hdigit, hp⟩ := h
  have htake := takeDigits_append hwhole (hf.noDigit hp)
  cases hf with
  | none =>
    cases hp with
    | none => simp_all [unsigned?]
    | marked hmark hsign hd hne =>
      have hexponent := exponent?_of hsign hd hne
      rcases hmark with rfl | rfl <;> simp_all [unsigned?]
  | point hd =>
    have hfraction := takeDigits_append hd hp.noDigit
    cases hp with
    | none => simp_all [unsigned?]
    | marked hmark hsign hd hne =>
      have hexponent := exponent?_of hsign hd hne
      rcases hmark with rfl | rfl <;> simp_all [unsigned?]

/-- A number starts with a digit, or with a point that a digit follows. -/
def Starts (c : Char) (s : List Char) : Prop :=
  isDigit c = true ∨ c = '.' ∧ ∃ d ∈ s.head?, isDigit d = true

theorem starts_of_writes (h : Writes s x) : ∃ c rest, s = c :: rest ∧ Starts c rest := by
  obtain ⟨hwhole, hf, hdigit, hp⟩ := h
  rename_i whole pointed fraction raised power
  cases whole with
  | cons c whole => exact ⟨c, _, rfl, .inl (hwhole c List.mem_cons_self)⟩
  | nil =>
    cases hf with
    | none => exact absurd rfl hdigit
    | point hd =>
      obtain ⟨d, digits, rfl⟩ := List.exists_cons_of_ne_nil hdigit
      exact ⟨'.', _, rfl, .inr ⟨rfl, d, rfl, hd d List.mem_cons_self⟩⟩

theorem Starts.append (h : Starts c s) (rest : List Char) : Starts c (s ++ rest) := by
  rcases h with h | ⟨rfl, d, hd, hdigit⟩
  · exact .inl h
  · exact .inr ⟨rfl, d, by rw [List.head?_append, Option.mem_def.mp hd]; rfl, hdigit⟩

theorem Starts.toNat_le (h : Starts c s) : c.toNat ≤ 57 := by
  rcases h with h | ⟨rfl, -⟩
  · simp only [isDigit, Bool.and_eq_true, decide_eq_true_eq] at h
    exact h.2
  · decide

theorem Starts.toLower_eq (h : Starts c s) : c.toLower = c := by
  refine dif_neg ?_
  rintro ⟨hA, -⟩
  have hlow : 65 ≤ c.toNat := UInt32.le_iff_toNat_le.mp hA
  have hhigh := h.toNat_le
  omega

theorem Starts.ne (h : Starts c s) (hd : isDigit d = false) (hpoint : d ≠ '.') : c ≠ d := by
  rintro rfl
  rcases h with h | ⟨rfl, -⟩
  · rw [hd] at h
    cases h
  · exact hpoint rfl

/-- No word is a number that is written in decimal. -/
theorem Starts.word?_eq_none (h : Starts c s) (negative : Bool) :
    word? negative (c :: s) = none := by
  have hi : c ≠ 'i' := h.ne rfl (by decide)
  have hn : c ≠ 'n' := h.ne rfl (by decide)
  simp [word?, h.toLower_eq, hi, hn]

/-- Each number that is written in decimal is read. -/
theorem read?_of_writes (h : Writes s x) : read? (String.ofList s) = some x := by
  obtain ⟨c, rest, rfl, hc⟩ := starts_of_writes h
  have hminus : c ≠ '-' := hc.ne rfl (by decide)
  have hplus : c ≠ '+' := hc.ne rfl (by decide)
  simp [read?, hminus, hplus, hc.word?_eq_none, unsigned?_of_writes h]

/-- The text with a small letter before each power. -/
def smallMarks (s : List Char) : List Char :=
  s.map fun c => if c = 'E' then 'e' else c

theorem smallMarks_append (s t : List Char) :
    smallMarks (s ++ t) = smallMarks s ++ smallMarks t :=
  List.map_append

theorem AllDigits.smallMarks (h : AllDigits digits) : smallMarks digits = digits := by
  induction digits with
  | nil => rfl
  | cons c digits ih =>
    obtain ⟨hc, hdigits⟩ := List.forall_mem_cons.mp h
    have hmark : c ≠ 'E' := by
      rintro rfl
      cases hc
    simp only [Number.smallMarks, List.map_cons, if_neg hmark, List.cons.injEq, true_and]
    exact ih hdigits

theorem Fraction.smallMarks (h : Fraction pointed digits) : smallMarks pointed = pointed := by
  cases h with
  | none => rfl
  | point h => exact congrArg ('.' :: ·) h.smallMarks

theorem PowerSign.smallMarks {sign : List Char} {negative : Bool} (h : PowerSign sign negative) :
    smallMarks sign = sign := by
  cases h <;> rfl

theorem Power.smallMarks (h : Power raised power) : Power (smallMarks raised) power := by
  cases h with
  | none => exact .none
  | @marked mark sign _ digits hmark hsign hd hne =>
    have hletter : Number.smallMarks (mark :: (sign ++ digits)) =
        'e' :: Number.smallMarks (sign ++ digits) := by
      rcases hmark with rfl | rfl <;> rfl
    rw [hletter, smallMarks_append, hsign.smallMarks, hd.smallMarks]
    exact .marked (.inl rfl) hsign hd hne

/-- The letter is the same in either case. -/
theorem Writes.smallMarks (h : Writes s x) : Writes (smallMarks s) x := by
  obtain ⟨hwhole, hf, hdigit, hp⟩ := h
  rw [smallMarks_append, smallMarks_append, hwhole.smallMarks, hf.smallMarks]
  exact .mk hwhole hf hdigit hp.smallMarks

end AppDef.Number
