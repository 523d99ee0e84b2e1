import AppDef.Document.Basic
import AppDef.Expr.Eval
import AppDef.Template.Interpolate

namespace AppDef

/-- The name that stands for the value of the last calculator. -/
def resultVariable : String := "result"

/-- The value of a calculator and how it is shown. -/
structure CalculatorOutput where
  label : String
  value : Float
  display : String

namespace CalculatorSection

/-- A value is shown by the template of the section, or as a bare number. -/
def show? (s : CalculatorSection) (env : Environment) (value : Float) :
    Except RenderError String :=
  match s.resultFormat with
  | some format => interpolate format (env.bindNumber resultVariable value)
  | none => .ok (Number.display value)

def evaluate (s : CalculatorSection) (env : Environment) :
    Except RenderError (Except ExprError CalculatorOutput) :=
  match evaluateFormula s.formula env with
  | .error e => .ok (.error e)
  | .ok value => do
    return .ok ⟨s.resultLabel, value, ← s.show? env value⟩

end CalculatorSection

/-- A guard holds, where none or a blank one always does. -/
def guardHolds (guard? : Option String) (env : Environment) : Except ExprError Bool :=
  match guard? with
  | some guard => if Text.allBlank guard then .ok true else evaluateGuard guard env
  | none => .ok true

/-- What a section comes to. -/
inductive SectionState where
  | text (body : String)
  | form (fields : List String)
  | calculator (outcome : Except ExprError CalculatorOutput)
  | wizard (steps : List String)
  | shown (rendered : String)
  | hidden
  /-- A result whose guard is no expression is hidden too. -/
  | failed (error : ExprError)

def SectionState.error? : SectionState → Option ExprError
  | .calculator (.error e) => some e
  | .failed e => some e
  | _ => none

structure SectionView where
  index : Nat
  kind : SectionKind
  heading : Option String
  state : SectionState

def ResultSection.evaluate (s : ResultSection) (env : Environment) :
    Except RenderError SectionState :=
  match guardHolds s.showIf env with
  | .error e => .ok (.failed e)
  | .ok false => .ok .hidden
  | .ok true => (interpolate s.template env).map .shown

def Section.evaluate (s : Section) (env : Environment) : Except RenderError SectionState :=
  match s with
  | .text part => .ok (.text part.body)
  | .form part => .ok (.form (part.fields.map (·.name)))
  | .calculator part => (part.evaluate env).map .calculator
  | .wizard part => .ok (.wizard (part.steps.map (·.title)))
  | .result part => part.evaluate env

/-- The environment behind a section. -/
def SectionState.bind (env : Environment) : SectionState → Environment
  | .calculator (.ok output) => env.bindNumber resultVariable output.value
  | _ => env

/-- The views of all sections, the first of which has the index `start`. -/
def evaluateFrom (start : Nat) (env : Environment) :
    List Section → Except RenderError (List SectionView)
  | [] => .ok []
  | s :: rest => do
    let state ← s.evaluate env
    return ⟨start, s.kind, s.heading, state⟩ :: (← evaluateFrom (start + 1) (state.bind env) rest)

def Document.evaluate (d : Document) (env : Environment) :
    Except RenderError (List SectionView) :=
  evaluateFrom 0 env d.sections

/-- What is taken for granted of a section whose guard is no expression. -/
inductive VisibilityMode where
  | visible
  | hidden
  deriving DecidableEq, Repr

def SectionState.isVisible (mode : VisibilityMode) : SectionState → Bool
  | .hidden => false
  | .failed _ => mode = .visible
  | _ => true

/-- Whether each section is visible, by index. -/
def Document.visibility (d : Document) (env : Environment) (mode : VisibilityMode) :
    Except RenderError (List (Nat × Bool)) := do
  return (← d.evaluate env).map fun view => (view.index, view.state.isVisible mode)

end AppDef
