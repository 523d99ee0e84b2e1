import AppDef.Console.Transcript
import AppDef.Wizard

namespace AppDef

/-- Why a walk ended before the end of its document. -/
inductive WalkFailure where
  | aborted
  | inputEnded
  | hiddenField (name message : String)
  | unrenderable (error : RenderError)
  | refused (message : String)
  /-- The walk goes on for ever without reading a line. -/
  | endless
  deriving DecidableEq, Repr

def WalkFailure.message : WalkFailure → String
  | .aborted => "run aborted by user"
  | .inputEnded => "input ended before the app was completed"
  | .hiddenField name message => "hidden field " ++ name ++ ": " ++ message
  | .refused message => message
  | .unrenderable _ => "a number cannot be shown with that many decimal places"
  | .endless => "the run does not end"

/-- The lines of a text, each with its end. -/
def splitLines : List Char → List (List Char)
  | [] => []
  | '\n' :: rest => ['\n'] :: splitLines rest
  | c :: rest =>
    match splitLines rest with
    | [] => [[c]]
    | line :: lines => (c :: line) :: lines

def typedLines (text : String) : List String :=
  (splitLines text.toList).map String.ofList

/-- The lines that will be typed are given beforehand, so a walk is a function of them. -/
structure Session where
  /-- The lines that are not read yet. -/
  lines : List String
  values : Values
  transcript : Transcript

/-- A failure keeps what was captured and printed before it. -/
abbrev Walk := ExceptT WalkFailure (StateM Session)

inductive Flow where
  | next
  | back
  deriving DecidableEq, Repr

/-- What a line does to a prompt. -/
inductive Turn where
  | proceed (values : Values)
  | goBack
  | again (said : Transcript)

namespace Walk

def say (said : Transcript) : Walk Unit :=
  modify fun s => { s with transcript := s.transcript ++ said }

def turn (inWizard : Bool) (f : Field) (values : Values) (line : String) : Turn :=
  match Answer.read f line with
  | .error fault => .again (Transcript.answerFault fault)
  | .ok .back =>
    if inWizard then .goBack else .again [Transcript.line "Nothing to go back to here."]
  | .ok (.value v) =>
    match f.check (some v) with
    | some e => .again (Transcript.fieldErrors [e])
    | none => .proceed (values.insert f.name v)
  | .ok .keep =>
    if values.contains f.name then .proceed values
    else
      match f.defaultValue with
      | some v => .proceed (values.insert f.name v)
      | none =>
        if f.required then .again (Transcript.answerFault ⟨"This field requires an answer.", none⟩)
        else .proceed values

def isExit (line : String) : Bool :=
  Text.sameLetters (Text.trimmed line) "exit"

/-- Prompts for a field until a line settles it. -/
def promptFrom (verbose inWizard : Bool) (f : Field) (p : Prompt) (values : Values)
    (said : Transcript) : (lines : List String) → Except WalkFailure Flow × Session
  | [] => (.error .inputEnded, ⟨[], values, said ++ Transcript.prompt verbose p⟩)
  | line :: lines =>
    let said := said ++ Transcript.prompt verbose p
    if isExit line then (.error .aborted, ⟨lines, values, said⟩)
    else
      match turn inWizard f values line with
      | .proceed values => (.ok .next, ⟨lines, values, said⟩)
      | .goBack => (.ok .back, ⟨lines, values, said⟩)
      | .again more => promptFrom verbose inWizard f p values (said ++ more) lines

/-- A hidden field is never prompted for. It takes its default, and has to be valid. -/
def hidden (f : Field) : Walk Flow := do
  if let some v := f.defaultValue then
    modify fun s =>
      if s.values.contains f.name then s else { s with values := s.values.insert f.name v }
  match f.check ((← get).values.get? f.name) with
  | some e => throw (.hiddenField f.name e.message)
  | none => return .next

def ask (verbose inWizard : Bool) (f : Field) : Walk Flow :=
  if f.kind = .hidden then hidden f
  else fun s =>
    promptFrom verbose inWizard f (Prompt.ofField f (s.values.get? f.name)) s.values s.transcript
      s.lines

/-- Asks for the fields without a value. -/
def collect (verbose : Bool) (fields : List Field) : Walk Unit :=
  fields.forM fun f => do
    if !(← get).values.contains f.name then
      discard (ask verbose false f)

/-- Asks for all fields of a step, up to one at which the way back is taken. -/
def askStep (verbose : Bool) : List Field → Walk Flow
  | [] => return .next
  | f :: rest => do
    match ← ask verbose true f with
    | .next => askStep verbose rest
    | .back => return .back

def steps (verbose : Bool) (s : WizardSection) : (fuel : Nat) → WizardState → Walk Unit
  | 0, _ => throw .endless
  | fuel + 1, state => do
    match s.stepAt? state with
    | none => return
    | some step =>
      let (position, total) := s.progress state
      say (Transcript.step position total step)
      match ← askStep verbose step.fields with
      | .back => steps verbose s fuel state.back
      | .next =>
        match s.next (← get).values state with
        | .ok state => steps verbose s fuel state
        | .error (.invalid errors) =>
          say (Transcript.fieldErrors errors)
          steps verbose s fuel state
        | .error .completed => return

/-- A line takes the wizard back by at most one step, and between two lines every other turn is an advance. -/
def wizardFuel (s : WizardSection) (lines : List String) : Nat :=
  2 * (lines.length + 2) * (s.steps.length + 1)

def wizard (verbose : Bool) (s : WizardSection) : Walk Unit := do
  steps verbose s (wizardFuel s (← get).lines) s.initial

def showEvaluated (verbose : Bool) (d : Document) (index : Nat) : Walk Unit := do
  match d.evaluate (d.environment (← get).values) with
  | .error e => throw (.unrenderable e)
  | .ok views => say ((views[index]?).elim [] (Transcript.view verbose))

/-- One section of a document, by its index. -/
def part (verbose : Bool) (d : Document) (index : Nat) : Section → Walk Unit
  | .text s => say (Transcript.heading s.heading ++ Transcript.body s.body)
  | .form s => do
    say (Transcript.heading s.heading)
    collect verbose s.fields
  | .calculator s => do
    collect verbose s.inputs
    showEvaluated verbose d index
  | .wizard s => do
    say (Transcript.heading s.heading)
    wizard verbose s
  | .result _ => showEvaluated verbose d index

def run (verbose : Bool) (d : Document) : Walk Unit := do
  say (Transcript.header d)
  d.sections.zipIdx.forM fun (s, i) => part verbose d i s

/-- Discards the value of a field and asks for it again. -/
def reaskOne (verbose : Bool) (d : Document) (name : String) : Walk Unit := do
  if let some f := d.field? name then
    modify fun s => { s with values := s.values.erase name }
    discard (ask verbose false f)

def reask (verbose : Bool) (d : Document) (names : List String) : Walk Unit :=
  names.forM (reaskOne verbose d)

end Walk

end AppDef
