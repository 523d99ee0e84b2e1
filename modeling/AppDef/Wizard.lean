import AppDef.Validation

namespace AppDef

inductive WizardState where
  | step (index : Nat)
  | completed
  deriving DecidableEq, Repr, Inhabited

inductive WizardError where
  | invalid (errors : List FieldError)
  | completed
  deriving DecidableEq, Repr

def WizardError.message : WizardError → String
  | .invalid errors =>
    "current step has invalid fields: " ++ ", ".intercalate (errors.map (·.field))
  | .completed => "wizard is already completed"

namespace WizardSection

/-- A wizard without steps is completed from the start. -/
def initial (s : WizardSection) : WizardState :=
  if s.steps.isEmpty then .completed else .step 0

def stepAt? (s : WizardSection) : WizardState → Option WizardStep
  | .step i => s.steps[i]?
  | .completed => none

/-- The position, counted from one, and the number of steps. -/
def progress (s : WizardSection) : WizardState → Nat × Nat
  | .step i => (i + 1, s.steps.length)
  | .completed => (s.steps.length, s.steps.length)

/-- The state behind the step `index`. -/
def after (s : WizardSection) (index : Nat) : WizardState :=
  if index + 1 < s.steps.length then .step (index + 1) else .completed

/-- The state that valid values lead to. A failure leaves the wizard where it is. -/
def next (s : WizardSection) (values : Values) (state : WizardState) :
    Except WizardError WizardState :=
  match state with
  | .completed => .error .completed
  | .step i =>
    let result := validate (((s.steps[i]?).map (·.fields)).getD []) values
    if result.valid then .ok (s.after i) else .error (.invalid result.errors)

end WizardSection

namespace WizardState

def isComplete (state : WizardState) : Bool :=
  state == .completed

/-- The step before, if there is one and the wizard is not completed. -/
def back : WizardState → WizardState
  | .step (i + 1) => .step i
  | state => state

end WizardState

end AppDef
