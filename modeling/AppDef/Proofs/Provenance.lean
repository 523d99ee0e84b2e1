import AppDef.Proofs.Evaluation
import AppDef.Proofs.Rendering
import AppDef.Proofs.Template.Footprint

namespace AppDef

namespace Environment

variable {env env' : Environment} {hidden : String}

theorem AgreeOff.trans {env'' : Environment} (h : AgreeOff hidden env env')
    (h' : AgreeOff hidden env' env'') : AgreeOff hidden env env'' :=
  fun name hne => (h name hne).trans (h' name hne)

theorem AgreeOff.symm (h : AgreeOff hidden env env') : AgreeOff hidden env' env :=
  fun name hne => (h name hne).symm

theorem agreeOff_withResult (env : Environment) (x? : Option Float) :
    AgreeOff resultVariable (env.withResult x?) env := by
  cases x? with
  | none => exact fun _ _ => rfl
  | some x => exact fun _ hne => (Dict.get?_insert ..).trans (if_neg hne)

theorem AgreeOff.withResult (h : AgreeOff resultVariable env env') (x? x'? : Option Float) :
    AgreeOff resultVariable (env.withResult x?) (env'.withResult x'?) :=
  (env.agreeOff_withResult x?).trans (h.trans (env'.agreeOff_withResult x'?).symm)

/-- A number hides what was there under its name. -/
theorem AgreeOff.bindNumber (h : AgreeOff hidden env env') (x : Float) :
    env.bindNumber hidden x = env'.bindNumber hidden x := by
  refine Dict.ext_get? fun name => ?_
  unfold Environment.bindNumber
  rw [Dict.get?_insert, Dict.get?_insert]
  split
  · rfl
  · rename_i hne
    exact h name hne

end Environment

variable {env env' : Environment}

/-- The formula of a calculator, or the guard or the template of a result, asks for the result. The
format of a calculator is given the value of its own formula. -/
def Section.asksForResult : Section → Bool
  | .calculator part => Expr.sourceAsksFor resultVariable part.formula
  | .result part =>
    part.showIf.any (Expr.sourceAsksFor resultVariable) ||
      Template.asksFor resultVariable part.template
  | _ => false

/-- The section is a calculator that comes to a value without the result of another one. -/
def Section.Computes (env : Environment) (s : Section) : Prop :=
  s.asksForResult = false ∧
    ∃ part x, s = .calculator part ∧ evaluateFormula part.formula env = .ok x

theorem Section.Computes.congr {s : Section} (h : env.AgreeOff resultVariable env')
    (hs : s.Computes env) : s.Computes env' := by
  obtain ⟨hquiet, part, x, rfl, hx⟩ := hs
  exact ⟨hquiet, part, x, rfl, (evaluateFormula_congr hquiet h).symm.trans hx⟩

/-- Once such a calculator is evaluated it leaves its value. -/
theorem Section.Computes.value {s : Section} {state : SectionState} (hs : s.Computes env)
    (he : s.evaluate env = .ok state) : ∃ x, state.value? = some x := by
  obtain ⟨-, part, x, rfl, hx⟩ := hs
  obtain ⟨outcome, ho, rfl⟩ := except_map_eq_ok.mp he
  have hvalue := CalculatorSection.value_of_evaluate ho
  rw [hx] at hvalue
  obtain ⟨output, rfl, -⟩ := except_map_eq_ok.mp hvalue
  exact ⟨output.value, rfl⟩

theorem SectionState.bind_congr {state : SectionState} {x : Float} (hx : state.value? = some x)
    (h : env.AgreeOff resultVariable env') : state.bind env = state.bind env' := by
  rw [bind_eq, bind_eq, hx]
  exact h.bindNumber x

variable {start : Nat} {before sections : List Section}
  {views views' front front' : List SectionView}

variable {d : Document} {i : Nat} {s : Section}

namespace Document

variable {values values' : Values}

/-- A document laid out with the views of its sections. -/
def layout (d : Document) (env : Environment) (views : List SectionView) : Rendering where
  identity := d.identity
  settings := d.settingsOrDefault
  missingRequired := (d.validate env).missingRequired
  sections := (d.sections.zip views).map fun e =>
    ⟨e.2, e.1.fields.map fun f => ⟨f, env.get? f.name⟩⟩

theorem render_eq (d : Document) (values : Values) :
    d.render values =
      (d.evaluate (d.environment values)).map (d.layout (d.environment values)) := by
  change (d.evaluate (d.environment values) >>= fun views =>
    .ok (d.layout (d.environment values) views)) = _
  cases d.evaluate (d.environment values) <;> rfl

theorem views_layout (d : Document) (env : Environment) {views : List SectionView}
    (h : views.length = d.sections.length) :
    (d.layout env views).sections.map (·.view) = views := by
  unfold layout
  rw [List.map_map]
  exact List.map_snd_zip (Nat.le_of_eq h)

end Document

end AppDef
