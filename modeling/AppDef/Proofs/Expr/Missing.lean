import AppDef.Proofs.Expr.Guard

namespace AppDef

/-- Nothing is bound to the name, or only null. -/
def Environment.Lacks (env : Environment) (name : String) : Prop :=
  env.get? name = none ∨ env.get? name = some .null

namespace Expr

variable {env : Environment} {e : Expr} {name : String}

/-- The node is a name, a literal, a sign, an arithmetic operator or a function. -/
def isArithmetic : Expr → Bool
  | .number _ | .text _ | .bool _ | .variable _ | .call _ _ => true
  | .unary .negate _ | .unary .plus _ | .binary (.arithmetic _) _ _ => true
  | _ => false

/-- An operand of a guard that is no number is taken as missing. -/
theorem numeric_guard (operand : Expr) (a : Scalar) :
    numeric .guard operand a = .ok a.asNumber? := by
  cases h : a.asNumber? <;> simp [numeric, h]

theorem eval_of_lacks (h : env.Lacks name) : eval .guard env (.variable name) = .ok .missing := by
  rcases h with h | h <;> simp [eval, h, Scalar.ofJson]

/-- One missing argument is enough, even if others before it are no numbers. -/
theorem evalArguments_missing {args : List Expr} {a : Expr}
    (hall : ∀ b ∈ args, ∃ v, eval .guard env b = .ok v) (ha : a ∈ args)
    (hmissing : eval .guard env a = .ok .missing) : evalArguments .guard env args = .ok none := by
  induction args with
  | nil => cases ha
  | cons b args ih =>
    obtain ⟨⟨v, hv⟩, hargs⟩ := List.forall_mem_cons.mp hall
    simp only [evalArguments, hv, except_ok_bind, numeric_guard]
    cases hx : v.asNumber? with
    | none => rfl
    | some x =>
      -- This one is a number, so the one that is missing comes later.
      have htail : a ∈ args := by
        rcases List.mem_cons.mp ha with rfl | h
        · rw [hmissing] at hv
          cases hv
          cases hx
        · exact h
      simp [ih hargs htail]

/-- Arithmetic is missing as soon as a name in it has no value. -/
theorem eval_missing (harith : e.every isArithmetic = true) (happlied : e.every isApplied = true)
    (hm : name ∈ e.mentions) (hl : env.Lacks name) : eval .guard env e = .ok .missing := by
  induction e with
  | number | text | bool => cases hm
  | named =>
    cases List.mem_singleton.mp hm
    exact eval_of_lacks hl
  | unary op a ih =>
    obtain ⟨hop, ha⟩ := every_unary.mp harith
    have hmissing := ih ha (every_unary.mp happlied).2 hm
    cases op with
    | not => cases hop
    | negate | plus => simp [eval, hmissing, numeric_guard, Scalar.asNumber?, ofNumber?]
  | binary op l r ihl ihr =>
    obtain ⟨hop, hl, hr⟩ := every_binary.mp harith
    obtain ⟨-, hl', hr'⟩ := every_binary.mp happlied
    obtain ⟨a, ha⟩ := eval_guard_value env hl'
    obtain ⟨b, hb⟩ := eval_guard_value env hr'
    cases op with
    | and | or | comparison => cases hop
    | arithmetic op =>
      -- The other operand may be anything: both are evaluated before either is taken as a number.
      simp only [eval, ha, hb, except_ok_bind, numeric_guard]
      rcases List.mem_append.mp hm with hm | hm
      · rw [ihl hl hl' hm] at ha
        cases ha
        rfl
      · rw [ihr hr hr' hm] at hb
        cases hb
        cases a.asNumber? <;> rfl
  | conditional => cases (every_conditional.mp harith).1
  | call f args ih =>
    obtain ⟨-, hargs⟩ := every_call.mp harith
    obtain ⟨-, hargs'⟩ := every_call.mp happlied
    obtain ⟨a, ha, hm⟩ := mem_mentionsAll.mp hm
    have hmissing := ih a ha (hargs a ha) (hargs' a ha) hm
    have hvalues : ∀ b ∈ args, ∃ v, eval .guard env b = .ok v :=
      fun b hb => eval_guard_value env (hargs' b hb)
    simp [eval, evalArguments_missing hvalues ha hmissing]

theorem Comparison.not_holds_missing (op : Comparison) (a : Scalar) :
    op.holds .missing a = false ∧ op.holds a .missing = false := by
  cases op <;> simp [holds, Scalar.equal?, Scalar.order?, Scalar.isMissing]

/-- Arithmetic in which a name has no value is missing in a guard, and no comparison of it with
anything holds. That the calls have their arguments is so of every expression that was read. -/
theorem missing_defeats_comparisons (harith : e.every isArithmetic = true)
    (happlied : e.every isApplied = true) (hm : ∃ name ∈ e.variableNames, env.Lacks name) :
    eval .guard env e = .ok .missing ∧ ∀ (op : Comparison) (other : Expr),
      other.every isApplied = true →
        eval .guard env (.binary (.comparison op) e other) = .ok (.bool false) ∧
        eval .guard env (.binary (.comparison op) other e) = .ok (.bool false) := by
  obtain ⟨name, hm, hl⟩ := hm
  have hmissing := eval_missing harith happlied (mem_variableNames.mp hm) hl
  refine ⟨hmissing, fun op other hother => ?_⟩
  obtain ⟨b, hb⟩ := eval_guard_value env hother
  obtain ⟨hleft, hright⟩ := op.not_holds_missing b
  constructor
  · simp [eval, hmissing, hb, hleft]
  · simp [eval, hmissing, hb, hright]

/-- A text that is no number stands before the name without a value, and the comparison is a
negated one. -/
theorem missing_defeats_comparisons_budget :
    let total : Expr := .call .max [.text "open", .binary (.arithmetic .multiply)
      (.variable "budget") (.variable "share")]
    let env : Environment := Dict.empty.insert "share" .null
    (total.every isArithmetic = true ∧ total.every isApplied = true ∧
      ∃ name ∈ total.variableNames, env.Lacks name) ∧
    eval .guard env total = .ok .missing ∧
    eval .guard env (.binary (.comparison .notEqual) (.text "open") total) = .ok (.bool false) := by
  intro total env
  have hm : ∃ name ∈ total.variableNames, env.Lacks name :=
    ⟨"share", by decide, .inr rfl⟩
  obtain ⟨hmissing, hall⟩ := missing_defeats_comparisons (e := total) rfl rfl hm
  exact ⟨⟨rfl, rfl, hm⟩, hmissing, (hall .notEqual (.text "open") rfl).2⟩

end Expr

end AppDef
