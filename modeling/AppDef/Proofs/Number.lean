import AppDef.Number.Binary

namespace AppDef.Number

open Float.Model (UnpackedFloat)

variable {a b : Float}

/-- Numbers compare alike from both sides. -/
theorem compare_swap {x y : UnpackedFloat} (hx : x.isNaN = false) (hy : y.isNaN = false) :
    ∃ o : Ordering, x.compare y = some o ∧ y.compare x = some o.swap := by
  cases x with
  | notANumber => cases hx
  | infinity s =>
    cases y with
    | notANumber => cases hy
    | infinity t | zero t | finite t => cases s <;> cases t <;> exact ⟨_, rfl, rfl⟩
  | zero s =>
    cases y with
    | notANumber => cases hy
    | infinity t | zero t | finite t => cases s <;> cases t <;> exact ⟨_, rfl, rfl⟩
  | finite s m e =>
    cases y with
    | notANumber => cases hy
    | infinity t | zero t => cases s <;> cases t <;> exact ⟨_, rfl, rfl⟩
    | finite t n f =>
      have hswap : (compare f e).then (compare n m) = ((compare e f).then (compare m n)).swap := by
        rw [Ordering.swap_then, Int.compare_swap, Nat.compare_swap]
      cases s <;> cases t
      · exact ⟨_, rfl, congrArg (fun o => some (Ordering.swap o)) hswap⟩
      · exact ⟨_, rfl, rfl⟩
      · exact ⟨_, rfl, rfl⟩
      · exact ⟨_, rfl, congrArg some hswap⟩

theorem lt_iff : a < b ↔ a.toModel.unpack.compare b.toModel.unpack = some .lt := by
  change decide (a.toModel < b.toModel) = true ↔ _
  rw [decide_eq_true_iff]
  exact beq_iff_eq

theorem le_iff : a ≤ b ↔ (a.toModel.unpack.compare b.toModel.unpack).any (·.isLE) = true := by
  change decide (a.toModel ≤ b.toModel) = true ↔ _
  rw [decide_eq_true_iff]
  exact Iff.rfl

theorem le_of_not_lt (ha : a.isNaN = false) (hb : b.isNaN = false) (h : ¬ a < b) : b ≤ a := by
  obtain ⟨o, hab, hba⟩ := compare_swap (x := a.toModel.unpack) (y := b.toModel.unpack) ha hb
  rw [lt_iff, hab] at h
  rw [le_iff, hba]
  cases o with
  | lt => exact absurd rfl h
  | eq | gt => rfl

theorem beq_iff : (a == b) = true ↔ a.toModel.unpack.compare b.toModel.unpack = some .eq := by
  change (a.toModel.unpack.compare b.toModel.unpack == some .eq) = true ↔ _
  exact beq_iff_eq

/-- Two numbers compare to some order, seen from both sides, and are equal only in that of
equals. -/
theorem compare?_swap (ha : a.isNaN = false) (hb : b.isNaN = false) : ∃ o : Ordering,
    (compare? a b = some o ∧ (a == b) = (o == .eq)) ∧
      compare? b a = some o.swap ∧ (b == a) = (o.swap == .eq) := by
  obtain ⟨o, hab, hba⟩ := compare_swap (x := a.toModel.unpack) (y := b.toModel.unpack) ha hb
  have heq : (a == b) = (o == .eq) := by
    rw [Bool.eq_iff_iff, beq_iff, hab, Option.some.injEq, beq_iff_eq]
  have heq' : (b == a) = (o.swap == .eq) := by
    rw [Bool.eq_iff_iff, beq_iff, hba, Option.some.injEq, beq_iff_eq]
  refine ⟨o, ⟨?_, heq⟩, ?_, heq'⟩
  · cases o <;> simp [compare?, lt_iff, hab, hba, heq]
  · cases o <;> simp [compare?, lt_iff, hab, hba, heq']

/-- What is no number equals nothing. -/
theorem beq_of_isNaN (h : a.isNaN = true) : (a == b) = false := by
  change a.toModel.unpack.isNaN = true at h
  rw [← Bool.not_eq_true, beq_iff]
  cases hx : a.toModel.unpack with
  | notANumber => rintro ⟨⟩
  | infinity _ | zero _ | finite _ =>
    rw [hx] at h
    cases h

theorem isNaN_of_isFinite (h : a.isFinite = true) : a.isNaN = false := by
  change a.toModel.unpack.isFinite = true at h
  change a.toModel.unpack.isNaN = false
  cases hx : a.toModel.unpack with
  | notANumber =>
    rw [hx] at h
    cases h
  | infinity _ | zero _ | finite _ => rfl

end AppDef.Number
