import AppDef.Evaluation
import AppDef.Proofs.Expr.Evaluation

namespace AppDef

namespace Environment

/-- The environments have the same under each of the names. -/
def AgreeOn (names : List String) (env env' : Environment) : Prop :=
  ∀ name ∈ names, env.get? name = env'.get? name

/-- The environments have the same under all names but one. -/
def AgreeOff (hidden : String) (env env' : Environment) : Prop :=
  ∀ name, name ≠ hidden → env.get? name = env'.get? name

variable {env env' : Environment} {names names' : List String} {hidden : String}

theorem AgreeOn.of_subset (h : AgreeOn names env env') (hs : names' ⊆ names) :
    AgreeOn names' env env' :=
  fun name hname => h name (hs hname)

theorem AgreeOff.on (h : AgreeOff hidden env env') (hn : hidden ∉ names) :
    AgreeOn names env env' :=
  fun name hname => h name fun he => hn (he ▸ hname)

end Environment

namespace Expr

variable {mode : Mode} {env env' : Environment} {e : Expr}

theorem evalArguments_congr {args : List Expr}
    (h : ∀ a ∈ args, eval mode env a = eval mode env' a) :
    evalArguments mode env args = evalArguments mode env' args := by
  induction args with
  | nil => rfl
  | cons a args ih =>
    obtain ⟨ha, hargs⟩ := List.forall_mem_cons.mp h
    rw [evalArguments, evalArguments, ha, ih hargs]

/-- In environments that agree on its names an expression comes to the same. -/
theorem eval_congr (h : Environment.AgreeOn e.mentions env env') :
    eval mode env e = eval mode env' e := by
  induction e with
  | number | text | bool => simp only [eval]
  | named name =>
    have hname : env.get? name = env'.get? name := h name (List.mem_singleton.mpr rfl)
    simp only [eval, hname]
  | unary op a ih =>
    simp only [eval, ih h]
  | binary op l r ihl ihr =>
    have hl := ihl (h.of_subset (List.subset_append_left ..))
    have hr := ihr (h.of_subset (List.subset_append_right ..))
    cases op <;> simp only [eval, hl, hr]
  | conditional c t e ihc iht ihe =>
    have hct := h.of_subset (List.subset_append_left (c.mentions ++ t.mentions) e.mentions)
    have hc := ihc (hct.of_subset (List.subset_append_left ..))
    have ht := iht (hct.of_subset (List.subset_append_right ..))
    have he := ihe (h.of_subset (List.subset_append_right ..))
    simp only [eval, hc, ht, he]
  | call f args ih =>
    have hargs : ∀ a ∈ args, eval mode env a = eval mode env' a := fun a ha =>
      ih a ha (h.of_subset fun _ hn => mem_mentionsAll.mpr ⟨a, ha, hn⟩)
    simp only [eval, evalArguments_congr hargs]

/-- If the error is about an unknown name, the name stands in the expression and is not bound. -/
def BlamesUnbound (env : Environment) (e : Expr) (err : ExprError) : Prop :=
  ∀ name, err = .unknownVariable name → name ∈ e.mentions ∧ env.get? name = none

/-- An evaluation that may fail, but on no name that it could have looked up. -/
def Blames (mode : Mode) (env : Environment) (e : Expr) : Prop :=
  Ends (eval mode env e) (fun _ => True) (BlamesUnbound env e)

theorem Blames.above {a : Expr} (h : Blames mode env a) (ha : a.Below e) :
    Ends (eval mode env a) (fun _ => True) (BlamesUnbound env e) :=
  h.mono (fun _ hv => hv) fun _ herr name he =>
    ⟨ha.mentions name (herr name he).1, (herr name he).2⟩

theorem numeric_blames (operand : Expr) (a : Scalar) :
    Ends (numeric mode operand a) (fun _ => True) (BlamesUnbound env e) := by
  cases hx : a.asNumber? with
  | some x => simp [numeric, hx]
  | none =>
    cases mode with
    | guard => simp [numeric, hx]
    | formula => simp [numeric, hx, BlamesUnbound]

theorem evalArguments_blames {args : List Expr} (h : ∀ a ∈ args, Blames mode env a)
    (hb : ∀ a ∈ args, a.Below e) :
    Ends (evalArguments mode env args) (fun _ => True) (BlamesUnbound env e) := by
  induction args with
  | nil => trivial
  | cons a args ih =>
    obtain ⟨ha, hargs⟩ := List.forall_mem_cons.mp h
    obtain ⟨hba, hbargs⟩ := List.forall_mem_cons.mp hb
    simp only [evalArguments]
    refine (ha.above hba).bind fun v _ => (numeric_blames a v).bind fun x? _ => ?_
    cases x? with
    | none => trivial
    | some x => exact (ih hargs hbargs).bind fun _ _ => trivial

theorem eval_blames (e : Expr) : Blames mode env e := by
  induction e with
  | number | text | bool => trivial
  | named name =>
    cases hg : env.get? name with
    | some v => simp [Blames, eval, hg]
    | none =>
      cases mode with
      | guard => simp [Blames, eval, hg]
      | formula =>
        have hblames : BlamesUnbound env (.variable name) (.unknownVariable name) := by
          intro unknown he
          cases he
          exact ⟨List.mem_singleton.mpr rfl, hg⟩
        simpa [Blames, eval, hg] using hblames
  | unary op a ih =>
    simp only [Blames, eval]
    refine (ih.above below_unary).bind fun v _ => ?_
    cases op with
    | not => trivial
    | negate | plus => exact (numeric_blames a v).bind fun _ _ => trivial
  | binary op l r ihl ihr =>
    have hl := ihl.above (below_left : l.Below (.binary op l r))
    have hr := ihr.above (below_right : r.Below (.binary op l r))
    cases op with
    | and =>
      simp only [Blames, eval]
      refine hl.bind fun a _ => ?_
      split
      · exact hr
      · trivial
    | or =>
      simp only [Blames, eval]
      refine hl.bind fun a _ => ?_
      split
      · trivial
      · exact hr
    | comparison op =>
      simp only [Blames, eval]
      exact hl.bind fun _ _ => hr.bind fun _ _ => trivial
    | arithmetic op =>
      simp only [Blames, eval]
      refine hl.bind fun a _ => hr.bind fun b _ => (numeric_blames l a).bind fun x? _ =>
        (numeric_blames r b).bind fun y? _ => ?_
      cases x? <;> cases y? <;> trivial
  | conditional c t e ihc iht ihe =>
    simp only [Blames, eval]
    refine (ihc.above below_condition).bind fun a _ => ?_
    split
    · exact iht.above below_whenTrue
    · exact ihe.above below_whenFalse
  | call f args ih =>
    simp only [Blames, eval]
    refine (evalArguments_blames ih fun a => below_call).bind fun xs? _ => ?_
    cases xs? with
    | none => trivial
    | some xs =>
      cases hx : f.apply? xs with
      | some x => simp [hx]
      | none => simp [hx, BlamesUnbound]

theorem unbound_of_eval {name : String} (h : eval mode env e = .error (.unknownVariable name)) :
    name ∈ e.mentions ∧ env.get? name = none := by
  have hblames : Blames mode env e := eval_blames e
  rw [Blames, h] at hblames
  exact hblames name rfl

/-- What is made of the value at the end is never an unknown name. -/
theorem evalNumber_unknown_iff {name : String} :
    e.evalNumber env = .error (.unknownVariable name) ↔
      eval .formula env e = .error (.unknownVariable name) := by
  cases he : eval .formula env e with
  | error err => simp [evalNumber, he]
  | ok a =>
    simp only [evalNumber, he, except_ok_bind, reduceCtorEq, iff_false]
    split
    · simp
    · split <;> simp

/-- An expression comes to the same in all environments that agree on its names, as a formula and as
a guard. A name that is reported as unknown is one of them and is not bound. -/
theorem sees_exactly_its_names (e : Expr) :
    (∀ env env', Environment.AgreeOn e.variableNames env env' →
      (∀ mode, eval mode env e = eval mode env' e) ∧
        e.evalNumber env = e.evalNumber env' ∧ e.evalBool env = e.evalBool env') ∧
    (∀ env name, e.evalNumber env = .error (.unknownVariable name) ↔
      eval .formula env e = .error (.unknownVariable name)) ∧
    (∀ env name, eval .formula env e = .error (.unknownVariable name) →
      name ∈ e.variableNames ∧ env.get? name = none) ∧
    ∀ env, (∀ name ∈ e.variableNames, env.contains name = true) →
      ∀ name, eval .formula env e ≠ .error (.unknownVariable name) := by
  have hunknown (env : Environment) (name : String)
      (h : eval .formula env e = .error (.unknownVariable name)) :
      name ∈ e.variableNames ∧ env.get? name = none := by
    obtain ⟨hm, hg⟩ := unbound_of_eval h
    exact ⟨mem_variableNames.mpr hm, hg⟩
  refine ⟨fun env env' h => ?_, fun env name => evalNumber_unknown_iff, hunknown, ?_⟩
  · have hagree : Environment.AgreeOn e.mentions env env' :=
      h.of_subset fun _ hm => mem_variableNames.mpr hm
    refine ⟨fun mode => eval_congr hagree, ?_, ?_⟩
    · rw [evalNumber, evalNumber, eval_congr hagree]
    · rw [evalBool, evalBool, eval_congr hagree]
  · intro env hbound name h
    obtain ⟨hm, hg⟩ := hunknown env name h
    simpa [Dict.contains, hg] using hbound name hm

/-- What else is bound makes no difference, and the name that is not bound is named. -/
theorem sees_exactly_its_names_member :
    let e : Expr := .binary .or (.variable "member") (.variable "name")
    let env : Environment := Dict.empty.insert "name" (.text "Ada")
    let env' : Environment := env.insert "plan" (.text "pro")
    env.AgreeOn e.variableNames env' ∧ eval .guard env e = eval .guard env' e ∧
      eval .formula env e = .error (.unknownVariable "member") ∧
      "member" ∈ e.variableNames ∧ env.get? "member" = none := by
  intro e env env'
  have hagree : env.AgreeOn e.variableNames env' := by
    intro name hname
    have hnames : e.variableNames = ["member", "name"] := by decide
    rw [hnames] at hname
    rcases List.mem_cons.mp hname with rfl | hname
    · rfl
    · cases List.mem_singleton.mp hname
      rfl
  have hunknown : eval .formula env e = .error (.unknownVariable "member") := rfl
  obtain ⟨hsame, -, hblamed, -⟩ := sees_exactly_its_names e
  exact ⟨hagree, (hsame env env' hagree).1 .guard, hunknown, hblamed env "member" hunknown⟩

end Expr

/-- A text is an expression in which the name stands. -/
def Expr.sourceAsksFor (name : String) (source : String) : Bool :=
  match Expr.parse source with
  | .ok e => e.mentions.contains name
  | .error _ => false

variable {env env' : Environment} {hidden source : String}

theorem Expr.agreeOn_of_sourceAsksFor {e : Expr} (he : Expr.parse source = .ok e)
    (hs : Expr.sourceAsksFor hidden source = false) (h : env.AgreeOff hidden env') :
    env.AgreeOn e.mentions env' := by
  refine h.on ?_
  simpa [sourceAsksFor, he] using hs

theorem evaluateFormula_congr (hs : Expr.sourceAsksFor hidden source = false)
    (h : env.AgreeOff hidden env') : evaluateFormula source env = evaluateFormula source env' := by
  unfold evaluateFormula
  cases he : Expr.parse source with
  | error err => rfl
  | ok e =>
    have hagree := Expr.agreeOn_of_sourceAsksFor he hs h
    simp [Expr.evalNumber, Expr.eval_congr hagree]

end AppDef
