import AppDef.Expr.Eval
import AppDef.Proofs.Expr.Tree

namespace AppDef

/-- The value counts as a number. -/
def Scalar.IsNumeric (a : Scalar) : Prop :=
  ∃ x, a.asNumber? = some x

namespace Expr

variable {env : Environment} {e : Expr}

def isText : Expr → Bool
  | .text _ => true
  | _ => false

/-- All that a formula starts from counts as a number. -/
def StartsNumeric (env : Environment) (e : Expr) : Prop :=
  e.every (!·.isText) = true ∧
    ∀ name ∈ e.mentions, ∀ v, env.get? name = some v → (Scalar.ofJson v).IsNumeric

/-- All that can go wrong with a formula in which every call has its arguments. -/
inductive Stuck (env : Environment) (e : Expr) : ExprError → Prop
  | unbound {name} (hm : name ∈ e.mentions) (hg : env.get? name = none) :
      Stuck env e (.unknownVariable name)
  | notNumeric (operand) (hn : ¬ StartsNumeric env e) : Stuck env e (.notNumeric operand)

/-- The evaluation of a formula comes to a value, which is a number if all it starts from is, or
gets stuck. -/
def Comes (env : Environment) (e : Expr) : Prop :=
  Ends (eval .formula env e) (fun a => StartsNumeric env e → a.IsNumeric) (Stuck env e)

/-- The node `a` stands below `e`, as far as names and texts are concerned. -/
structure Below (a e : Expr) : Prop where
  mentions : ∀ name ∈ a.mentions, name ∈ e.mentions
  texts : e.every (!·.isText) = true → a.every (!·.isText) = true

theorem StartsNumeric.below {a : Expr} (h : StartsNumeric env e) (ha : a.Below e) :
    StartsNumeric env a :=
  ⟨ha.texts h.1, fun name hm => h.2 name (ha.mentions name hm)⟩

theorem Stuck.above {a : Expr} {err : ExprError} (h : Stuck env a err) (ha : a.Below e) :
    Stuck env e err := by
  cases h with
  | unbound hm hg => exact .unbound (ha.mentions _ hm) hg
  | notNumeric operand hn => exact .notNumeric operand fun hs => hn (hs.below ha)

/-- What the evaluation of a part ends in, seen from the whole. -/
theorem Comes.above {a : Expr} (h : Comes env a) (ha : a.Below e) :
    Ends (eval .formula env a) (fun v => StartsNumeric env e → v.IsNumeric) (Stuck env e) :=
  h.mono (fun _ hv hs => hv (hs.below ha)) fun _ he => he.above ha

theorem below_unary {op : PrefixOp} {a : Expr} : a.Below (.unary op a) :=
  ⟨fun _ h => h, fun h => (every_unary.mp h).2⟩

theorem below_left {op : BinaryOp} {l r : Expr} : l.Below (.binary op l r) :=
  ⟨fun _ h => List.mem_append_left _ h, fun h => (every_binary.mp h).2.1⟩

theorem below_right {op : BinaryOp} {l r : Expr} : r.Below (.binary op l r) :=
  ⟨fun _ h => List.mem_append_right _ h, fun h => (every_binary.mp h).2.2⟩

theorem below_condition {c t e : Expr} : c.Below (.conditional c t e) :=
  ⟨fun _ h => List.mem_append_left _ (List.mem_append_left _ h),
    fun h => (every_conditional.mp h).2.1⟩

theorem below_whenTrue {c t e : Expr} : t.Below (.conditional c t e) :=
  ⟨fun _ h => List.mem_append_left _ (List.mem_append_right _ h),
    fun h => (every_conditional.mp h).2.2.1⟩

theorem below_whenFalse {c t e : Expr} : e.Below (.conditional c t e) :=
  ⟨fun _ h => List.mem_append_right _ h, fun h => (every_conditional.mp h).2.2.2⟩

theorem below_call {f : Function} {args : List Expr} {a : Expr} (ha : a ∈ args) :
    a.Below (.call f args) :=
  ⟨fun _ h => mem_mentionsAll.mpr ⟨a, ha, h⟩, fun h => (every_call.mp h).2 a ha⟩

/-- An operand of a formula is taken as a number, unless it is none. -/
theorem numeric_ends {operand : Expr} {a : Scalar}
    (ha : StartsNumeric env e → a.IsNumeric) :
    Ends (numeric .formula operand a) (fun x? => ∃ x, x? = some x) (Stuck env e) := by
  cases hx : a.asNumber? with
  | some x => simp [numeric, hx]
  | none =>
    have hn : ¬ StartsNumeric env e := by
      intro hs
      obtain ⟨x, h⟩ := ha hs
      rw [hx] at h
      cases h
    simpa [numeric, hx] using Stuck.notNumeric _ hn

/-- All arguments are taken as numbers. -/
theorem evalArguments_ends {args : List Expr} (h : ∀ a ∈ args, Comes env a)
    (hb : ∀ a ∈ args, a.Below e) :
    Ends (evalArguments .formula env args)
      (fun xs? => ∃ xs, xs? = some xs ∧ xs.length = args.length) (Stuck env e) := by
  induction args with
  | nil => exact ⟨[], rfl, rfl⟩
  | cons a args ih =>
    obtain ⟨ha, hargs⟩ := List.forall_mem_cons.mp h
    obtain ⟨hba, hbargs⟩ := List.forall_mem_cons.mp hb
    simp only [evalArguments]
    refine (ha.above hba).bind fun v hv => (numeric_ends hv).bind ?_
    rintro _ ⟨x, rfl⟩
    refine (ih hargs hbargs).bind ?_
    rintro _ ⟨xs, rfl, hl⟩
    exact ⟨x :: xs, rfl, by simp [hl]⟩

/-- A function that has its arguments has a value. -/
theorem Function.apply?_isSome {f : Function} {xs : List Float}
    (h : f.arity.allows xs.length = true) : ∃ x, f.apply? xs = some x := by
  cases f with
  | min | max => exact ⟨_, rfl⟩
  | abs | round | floor | ceil | sqrt =>
    obtain ⟨x, rfl⟩ := List.length_eq_one_iff.mp (by simpa [arity, Arity.allows] using h)
    exact ⟨_, rfl⟩
  | pow =>
    obtain ⟨x, y, rfl⟩ := List.length_eq_two.mp (by simpa [arity, Arity.allows] using h)
    exact ⟨_, rfl⟩

theorem isNumeric_bool (b : Bool) : (Scalar.bool b).IsNumeric :=
  ⟨_, rfl⟩

theorem isNumeric_number (x : Float) : (Scalar.number x).IsNumeric :=
  ⟨x, rfl⟩

theorem eval_variable_eq_ok_iff {name : String} {a : Scalar} :
    eval .formula env (.variable name) = .ok a ↔ ∃ v, env.get? name = some v ∧ a = .ofJson v := by
  cases hg : env.get? name <;> simp [eval, hg, eq_comm]

theorem comes_of_applied (e : Expr) (h : e.every isApplied = true) : Comes env e := by
  induction e with
  | number x => exact fun _ => isNumeric_number x
  | text s => exact fun hs => by simp [StartsNumeric, every, isText] at hs
  | bool b => exact fun _ => isNumeric_bool b
  | named name =>
    cases hg : env.get? name with
    | none => simpa [Comes, eval, hg] using Stuck.unbound (List.mem_singleton.mpr rfl) hg
    | some v =>
      have hv : StartsNumeric env (.variable name) → (Scalar.ofJson v).IsNumeric :=
        fun hs => hs.2 name (List.mem_singleton.mpr rfl) v hg
      simpa [Comes, eval, hg] using hv
  | unary op a ih =>
    simp only [Comes, eval]
    refine ((ih (every_unary.mp h).2).above below_unary).bind fun v hv => ?_
    cases op with
    | not => exact fun _ => isNumeric_bool _
    | negate | plus =>
      refine (numeric_ends hv).bind ?_
      rintro _ ⟨x, rfl⟩
      exact fun _ => isNumeric_number _
  | binary op l r ihl ihr =>
    have hl := (ihl (every_binary.mp h).2.1).above (below_left : l.Below (.binary op l r))
    have hr := (ihr (every_binary.mp h).2.2).above (below_right : r.Below (.binary op l r))
    cases op with
    | and =>
      simp only [Comes, eval]
      refine hl.bind fun a ha => ?_
      split
      · exact hr
      · exact ha
    | or =>
      simp only [Comes, eval]
      refine hl.bind fun a ha => ?_
      split
      · exact ha
      · exact hr
    | comparison op =>
      simp only [Comes, eval]
      exact hl.bind fun a _ => hr.bind fun b _ _ => isNumeric_bool _
    | arithmetic op =>
      simp only [Comes, eval]
      refine hl.bind fun a ha => hr.bind fun b hb => (numeric_ends ha).bind ?_
      rintro _ ⟨x, rfl⟩
      refine (numeric_ends hb).bind ?_
      rintro _ ⟨y, rfl⟩
      exact fun _ => isNumeric_number _
  | conditional c t e ihc iht ihe =>
    obtain ⟨_, hc, ht, he⟩ := every_conditional.mp h
    simp only [Comes, eval]
    refine ((ihc hc).above below_condition).bind fun a _ => ?_
    split
    · exact (iht ht).above below_whenTrue
    · exact (ihe he).above below_whenFalse
  | call f args ih =>
    obtain ⟨hf, hargs⟩ := every_call.mp h
    simp only [Comes, eval]
    refine (evalArguments_ends (fun a ha => ih a ha (hargs a ha)) fun a => below_call).bind ?_
    rintro _ ⟨xs, rfl, hl⟩
    have hcount : f.arity.allows xs.length = true := by
      rw [hl]
      exact hf
    obtain ⟨x, hx⟩ := Function.apply?_isSome hcount
    simp only [hx]
    exact fun _ => isNumeric_number x

theorem evalNumber_ends (h : e.every isApplied = true) :
    Ends (e.evalNumber env) (fun x => x.isFinite = true)
      (fun err => err = .notFinite ∨ Stuck env e err) := by
  refine ((comes_of_applied e h).mono (fun _ ha => ha) fun _ he => .inr he).bind fun a ha => ?_
  cases hx : a.asNumber? with
  | none =>
    have hn : ¬ StartsNumeric env e := by
      intro hs
      obtain ⟨x, hsome⟩ := ha hs
      rw [hx] at hsome
      cases hsome
    exact .inr (.notNumeric _ hn)
  | some x =>
    dsimp only
    split
    · assumption
    · exact .inl rfl

theorem error_of_evalNumber {err : ExprError} (h : e.every isApplied = true)
    (he : e.evalNumber env = .error err) : err = .notFinite ∨ Stuck env e err := by
  have hends := @evalNumber_ends env e h
  rw [he] at hends
  exact hends

/-- Where all names are bound, only what is no number is in the way. -/
theorem Stuck.of_bound {err : ExprError} (h : Stuck env e err)
    (hb : ∀ name ∈ e.mentions, ∃ v, env.get? name = some v) :
    ¬ StartsNumeric env e ∧ ∃ operand, err = .notNumeric operand := by
  cases h with
  | unbound hm hg =>
    obtain ⟨v, hv⟩ := hb _ hm
    rw [hg] at hv
    cases hv
  | notNumeric operand hn => exact ⟨hn, operand, rfl⟩

/-- A formula over bound numbers comes to a finite number or to one that is not finite. -/
theorem evalNumber_of_startsNumeric (h : e.every isApplied = true) (hs : StartsNumeric env e)
    (hb : ∀ name ∈ e.mentions, ∃ v, env.get? name = some v) :
    (∃ x, e.evalNumber env = .ok x ∧ x.isFinite = true) ∨ e.evalNumber env = .error .notFinite := by
  have hends := @evalNumber_ends env e h
  cases he : e.evalNumber env with
  | ok x =>
    rw [he] at hends
    exact .inl ⟨x, rfl, hends⟩
  | error err =>
    rcases error_of_evalNumber h he with rfl | hstuck
    · exact .inr rfl
    · exact absurd hs (hstuck.of_bound hb).1

end Expr

end AppDef
