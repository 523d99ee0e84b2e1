import AppDef.Proofs.Expr.Evaluation

namespace AppDef

/-- The second computation comes to a value, which is that of the first one if it has any. -/
def Extends {ε α : Type} (x y : Except ε α) : Prop :=
  ∃ a, y = .ok a ∧ ∀ b, x = .ok b → b = a

namespace Extends

variable {ε α β : Type} {x y : Except ε α}

theorem ok (a : α) : Extends (.ok a : Except ε α) (.ok a) :=
  ⟨a, rfl, fun _ h => (Except.ok.inj h).symm⟩

theorem of_error (e : ε) (a : α) : Extends (.error e) (.ok a) :=
  ⟨a, rfl, fun _ h => by cases h⟩

theorem bind {f g : α → Except ε β} (h : Extends x y)
    (hf : ∀ a, y = .ok a → Extends (f a) (g a)) : Extends (x >>= f) (y >>= g) := by
  obtain ⟨a, hy, hx⟩ := h
  obtain ⟨b, hg, hf⟩ := hf a hy
  refine ⟨b, by rw [hy, except_ok_bind, hg], fun b' hb' => ?_⟩
  obtain ⟨a', hxa, hfa⟩ := except_bind_eq_ok.mp hb'
  cases hx a' hxa
  exact hf b' hfa

end Extends

namespace Expr

variable {env : Environment} {e : Expr} {source : String}

/-- Where a formula takes no number, a guard takes the operand as missing. -/
theorem numeric_extends (operand : Expr) (a : Scalar) :
    Extends (numeric .formula operand a) (numeric .guard operand a) := by
  cases hx : a.asNumber? with
  | some x => simpa [numeric, hx] using .ok (some x)
  | none => simpa [numeric, hx] using .of_error _ none

theorem evalArguments_extends {args : List Expr}
    (h : ∀ a ∈ args, Extends (eval .formula env a) (eval .guard env a)) :
    Extends (evalArguments .formula env args) (evalArguments .guard env args) := by
  induction args with
  | nil => exact .ok _
  | cons a args ih =>
    obtain ⟨ha, hargs⟩ := List.forall_mem_cons.mp h
    simp only [evalArguments]
    refine ha.bind fun v _ => (numeric_extends a v).bind fun x? _ => ?_
    cases x? with
    | none => exact .ok none
    | some x => exact (ih hargs).bind fun xs? _ => .ok _

/-- If no argument is missing, all of them are there. -/
theorem length_of_evalArguments {mode : Mode} {args : List Expr} {xs : List Float}
    (h : evalArguments mode env args = .ok (some xs)) : xs.length = args.length := by
  induction args generalizing xs with
  | nil =>
    cases h
    rfl
  | cons a args ih =>
    simp only [evalArguments, except_bind_eq_ok] at h
    obtain ⟨v, -, x?, -, h⟩ := h
    cases x? with
    | none => cases h
    | some x =>
      obtain ⟨xs?, hxs, h⟩ := except_bind_eq_ok.mp h
      obtain ⟨ys, rfl, rfl⟩ := Option.map_eq_some_iff.mp (Except.ok.inj h)
      rw [List.length_cons, List.length_cons, ih hxs]

/-- A guard whose calls have their arguments has a value, the formula's where that has one. -/
theorem eval_extends (env : Environment) (e : Expr) (h : e.every isApplied = true) :
    Extends (eval .formula env e) (eval .guard env e) := by
  induction e with
  | number | text | bool => simpa only [eval] using .ok _
  | named name =>
    cases hg : env.get? name with
    | none => simpa [eval, hg] using .of_error _ Scalar.missing
    | some v => simpa [eval, hg] using .ok (Scalar.ofJson v)
  | unary op a ih =>
    simp only [eval]
    refine (ih (every_unary.mp h).2).bind fun v _ => ?_
    cases op with
    | not => exact .ok _
    | negate | plus => exact (numeric_extends a v).bind fun x? _ => .ok _
  | binary op l r ihl ihr =>
    obtain ⟨-, hl, hr⟩ := every_binary.mp h
    cases op with
    | and =>
      simp only [eval]
      refine (ihl hl).bind fun a _ => ?_
      split
      · exact ihr hr
      · exact .ok a
    | or =>
      simp only [eval]
      refine (ihl hl).bind fun a _ => ?_
      split
      · exact .ok a
      · exact ihr hr
    | comparison op =>
      simp only [eval]
      exact (ihl hl).bind fun a _ => (ihr hr).bind fun b _ => .ok _
    | arithmetic op =>
      simp only [eval]
      refine (ihl hl).bind fun a _ => (ihr hr).bind fun b _ => ?_
      refine (numeric_extends l a).bind fun x? _ => (numeric_extends r b).bind fun y? _ => ?_
      cases x? <;> cases y? <;> exact .ok _
  | conditional c t e ihc iht ihe =>
    obtain ⟨-, hc, ht, he⟩ := every_conditional.mp h
    simp only [eval]
    refine (ihc hc).bind fun a _ => ?_
    split
    · exact iht ht
    · exact ihe he
  | call f args ih =>
    -- Only here could a guard fail: the function must have its numbers when none is missing.
    obtain ⟨hf, hargs⟩ := every_call.mp h
    simp only [eval]
    refine (evalArguments_extends fun a ha => ih a ha (hargs a ha)).bind fun xs? hxs => ?_
    cases xs? with
    | none => exact .ok _
    | some xs =>
      have hcount : f.arity.allows xs.length = true := by
        rw [length_of_evalArguments hxs]
        exact hf
      obtain ⟨x, hx⟩ := Function.apply?_isSome hcount
      simpa only [hx] using .ok _

theorem eval_guard_value (env : Environment) (h : e.every isApplied = true) :
    ∃ a, eval .guard env e = .ok a :=
  let ⟨a, ha, _⟩ := eval_extends env e h
  ⟨a, ha⟩

theorem evaluateGuard_of_parse (hp : parse source = .ok e) :
    evaluateGuard source env = .ok (e.evalBool env) := by
  simp [evaluateGuard, hp]

/-- A guard that is an expression comes to a value in every environment, the one that its formula
comes to if it does, and holds if that value counts as true. A guard fails only as a text that is
no expression, and so in all environments with the same error. -/
theorem guard_extends_formula (source : String) :
    (∀ e, parse source = .ok e → ∀ env,
      (∃ a, eval .guard env e = .ok a ∧ evaluateGuard source env = .ok a.truthy) ∧
        ∀ a, eval .formula env e = .ok a → eval .guard env e = .ok a) ∧
    ∀ env err, evaluateGuard source env = .error err ↔ parse source = .error err := by
  constructor
  · intro e hp env
    obtain ⟨a, ha, hformula⟩ := eval_extends env e (applied_of_parse hp)
    refine ⟨⟨a, ha, ?_⟩, fun b hb => ?_⟩
    · rw [evaluateGuard_of_parse hp, evalBool, ha]
    · rw [hformula b hb, ha]
  · intro env err
    cases hp : parse source with
    | error err' => simp [evaluateGuard, hp]
    | ok e => simp [evaluateGuard_of_parse hp]

/-- A name that is not bound ends the formula and is passed over by the guard; where all names are
bound both come to the same. -/
theorem guard_extends_formula_member :
    ∃ e, parse "member or name" = .ok e ∧
      eval .formula (Dict.empty.insert "name" (.text "Ada")) e =
        .error (.unknownVariable "member") ∧
      evaluateGuard "member or name" (Dict.empty.insert "name" (.text "Ada")) = .ok true ∧
      eval .formula (Dict.ofList [("member", .bool false), ("name", .text "Ada")]) e =
        .ok (.text "Ada") ∧
      eval .guard (Dict.ofList [("member", .bool false), ("name", .text "Ada")]) e =
        .ok (.text "Ada") := by
  have hp : parse "member or name" = .ok (.binary .or (.variable "member") (.variable "name")) := by
    cbv
  have hguard : (Scalar.text "Ada").truthy = true := by decide
  have hall := (guard_extends_formula "member or name").1 _ hp
  refine ⟨_, hp, rfl, ?_, rfl, (hall _).2 _ rfl⟩
  obtain ⟨a, ha, heval⟩ := (hall (Dict.empty.insert "name" (.text "Ada"))).1
  cases ha
  exact heval.trans (congrArg _ hguard)

end Expr

end AppDef
