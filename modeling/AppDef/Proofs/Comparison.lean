import AppDef.Expr.Eval
import AppDef.Proofs.Number
import AppDef.Proofs.Outcome

namespace AppDef

open AppDef.Expr (Comparison)

namespace Scalar

/-- The value is there, and if it is taken for a number, it is one. -/
structure IsOrdered (a : Scalar) : Prop where
  present : a.isMissing = false
  number : ∀ x, a.comparable? = some x → x.isNaN = false

/-- How the first value stands to the second one. -/
structure Stands (a b : Scalar) (o : Ordering) : Prop where
  order : a.order? b = some o
  equal : a.equal? b = some (o == .eq)

variable {a b : Scalar} {o : Ordering}

theorem Stands.of_numbers {x y : Float} (ha : a.IsOrdered) (hb : b.IsOrdered)
    (hx : a.comparable? = some x) (hy : b.comparable? = some y) (ho : Number.compare? x y = some o)
    (he : (x == y) = (o == .eq)) : a.Stands b o :=
  ⟨by simp [order?, ha.present, hb.present, hx, hy, ho],
    by simp [equal?, ha.present, hb.present, hx, hy, he]⟩

/-- What is displayed of two values is compared as soon as one of them is no number. -/
theorem Stands.of_texts (ha : a.IsOrdered) (hb : b.IsOrdered)
    (h : a.comparable? = none ∨ b.comparable? = none) :
    a.Stands b (compare a.display b.display) := by
  have heq : (a.display == b.display) = (compare a.display b.display == .eq) := by
    rw [Bool.eq_iff_iff, beq_iff_eq, beq_iff_eq, Std.LawfulEqOrd.compare_eq_iff_eq]
  constructor
  · simp only [order?, ha.present, hb.present, Bool.or_self, Bool.false_eq_true, if_false]
    rcases h with h | h
    · rw [h]
    · rw [h]
      cases a.comparable? <;> rfl
  · simp only [equal?, ha.present, hb.present, Bool.or_self, Bool.false_eq_true, if_false, heq]
    rcases h with h | h
    · rw [h]
    · rw [h]
      cases a.comparable? <;> rfl

/-- Two values stand in one order, the same one from both sides. -/
theorem IsOrdered.stands (ha : a.IsOrdered) (hb : b.IsOrdered) :
    ∃ o, a.Stands b o ∧ b.Stands a o.swap := by
  by_cases h : a.comparable? = none ∨ b.comparable? = none
  · have hswap := Stands.of_texts hb ha h.symm
    rw [Std.OrientedOrd.eq_swap] at hswap
    exact ⟨_, .of_texts ha hb h, hswap⟩
  · obtain ⟨hx, hy⟩ := not_or.mp h
    obtain ⟨x, hx⟩ := Option.ne_none_iff_exists'.mp hx
    obtain ⟨y, hy⟩ := Option.ne_none_iff_exists'.mp hy
    obtain ⟨o, ⟨ho, he⟩, ho', he'⟩ := Number.compare?_swap (ha.number x hx) (hb.number y hy)
    exact ⟨o, .of_numbers ha hb hx hy ho he, .of_numbers hb ha hy hx ho' he'⟩

theorem Stands.unique {o' : Ordering} (h : a.Stands b o) (h' : a.Stands b o') : o' = o :=
  Option.some.inj (h'.order.symm.trans h.order)

/-- A value stands level with itself. -/
theorem IsOrdered.stands_self (ha : a.IsOrdered) : a.Stands a .eq := by
  obtain ⟨o, h, hswap⟩ := ha.stands ha
  have ho : o.swap = o := h.unique hswap
  cases o with
  | eq => exact h
  | lt | gt => cases ho

end Scalar

namespace Expr.Comparison

open Scalar (IsOrdered Stands)

variable {a b : Scalar} {o : Ordering}

/-- The orders in which an operator holds. -/
def admits : Comparison → Ordering → Bool
  | .equal, o => o == .eq
  | .notEqual, o => o != .eq
  | .less, o => o.isLT
  | .lessEqual, o => o.isLE
  | .greater, o => o.isGT
  | .greaterEqual, o => o.isGE

theorem holds_of_stands (h : a.Stands b o) (op : Comparison) : op.holds a b = op.admits o := by
  cases op with
  | equal | notEqual => simp [holds, admits, h.equal, bne]
  | less | lessEqual | greater | greaterEqual => simp [holds, admits, h.order]

/-- Only what stands in an order at all is equal to itself. -/
theorem equal_self_iff : holds .equal a a = true ↔ a.IsOrdered := by
  constructor
  · intro h
    have hpresent : a.isMissing = false := by
      cases hm : a.isMissing with
      | false => rfl
      | true => simp [holds, Scalar.equal?, hm] at h
    refine ⟨hpresent, fun x hx => ?_⟩
    cases hn : x.isNaN with
    | false => rfl
    | true => simp [holds, Scalar.equal?, hpresent, hx, Number.beq_of_isNaN hn] at h
  · intro h
    rw [holds_of_stands h.stands_self]
    rfl

/-- The operators agree on one order between two values. A value is equal to itself exactly when it
is in order with others: when it is there and is not taken for a number without being one. -/
theorem comparisons_coherent {a b : Scalar} (ha : a.IsOrdered) (hb : b.IsOrdered) :
    (∀ c, holds .equal c c = true ↔ c.IsOrdered) ∧
      [holds .less a b, holds .equal a b, holds .less b a].count true = 1 ∧
      holds .equal b a = holds .equal a b ∧
      holds .greater b a = holds .less a b ∧
      holds .lessEqual a b = (holds .less a b || holds .equal a b) ∧
      holds .greaterEqual a b = (holds .greater a b || holds .equal a b) ∧
      holds .notEqual a b = !holds .equal a b := by
  obtain ⟨o, hab, hba⟩ := ha.stands hb
  refine ⟨fun c => equal_self_iff, ?_⟩
  simp only [holds_of_stands hab, holds_of_stands hba]
  cases o <;> decide

/-- Texts that write numbers are compared as numbers. -/
theorem comparisons_coherent_digits :
    IsOrdered (.text "9") ∧ IsOrdered (.text "10") ∧ holds .less (.text "9") (.text "10") = true ∧
      [holds .less (.text "9") (.text "10"), holds .equal (.text "9") (.text "10"),
        holds .less (.text "10") (.text "9")].count true = 1 := by
  have hnine : IsOrdered (.text "9") := ⟨rfl, by decide +kernel⟩
  have hten : IsOrdered (.text "10") := ⟨rfl, by decide +kernel⟩
  exact ⟨hnine, hten, by decide +kernel, (comparisons_coherent hnine hten).2.1⟩

/-- A text that spells no number is taken for one, so that it is unequal to itself, in a guard
too. -/
theorem nan_unequal_to_itself :
    (Scalar.text "nan").isMissing = false ∧ holds .equal (.text "nan") (.text "nan") = false ∧
      holds .notEqual (.text "nan") (.text "nan") = true ∧
      evaluateGuard "answer == answer" (Dict.empty.insert "answer" (.text "nan")) = .ok false := by
  have hparse : Expr.parse "answer == answer" =
      .ok (.binary (.comparison .equal) (.variable "answer") (.variable "answer")) := by cbv
  have hguard : Expr.evalBool (Dict.empty.insert "answer" (.text "nan"))
      (.binary (.comparison .equal) (.variable "answer") (.variable "answer")) = false := by
    decide +kernel
  refine ⟨rfl, by decide +kernel, by decide +kernel, ?_⟩
  simp only [evaluateGuard, hparse, except_ok_bind, except_pure, hguard]

end Expr.Comparison
end AppDef
