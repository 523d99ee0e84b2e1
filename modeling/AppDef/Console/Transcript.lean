import AppDef.Console.Answer
import AppDef.Engine.Submission
import AppDef.Evaluation

namespace AppDef

/-- A line on the standard output or on the standard error. -/
inductive Chunk where
  | out (text : String)
  | err (text : String)
  deriving DecidableEq, Repr, Inhabited

abbrev Transcript := List Chunk

namespace Transcript

def output (t : Transcript) : String :=
  String.join (t.map fun
    | .out text => text
    | .err _ => "")

def errors (t : Transcript) : String :=
  String.join (t.map fun
    | .out _ => ""
    | .err text => text)

def line (text : String) : Chunk :=
  .out (text ++ "\n")

def errorLine (text : String) : Chunk :=
  .err (text ++ "\n")

def header (d : Document) : Transcript :=
  if d.settingsOrDefault.showHeader then
    [line ("App: " ++ d.identity.title), line d.identity.description]
  else []

def heading (text? : Option String) : Transcript :=
  text?.toList.map fun text => line ("== " ++ text ++ " ==")

def body (text : String) : Transcript :=
  if Text.allBlank text then [] else [line text]

def step (position total : Nat) (s : WizardStep) : Transcript :=
  line s!"Step {position}/{total}: {s.title}" :: s.description.toList.map line

/-- A prompt and the mark behind which an answer is typed. -/
def prompt (verbose : Bool) (p : Prompt) : Transcript :=
  line p.line :: (if verbose then p.placeholder.toList.map fun s => line ("e.g. " ++ s) else []) ++
    [.out "> "]

def answerFault (fault : AnswerFault) : Transcript :=
  errorLine ("Invalid answer: " ++ fault.message) ::
    fault.expected.toList.map fun s => errorLine ("  Expected: " ++ s)

def fieldErrors (errors : List FieldError) : Transcript :=
  errorLine "Validation errors:" ::
    errors.map fun e => errorLine ("  " ++ e.field ++ ": " ++ e.message)

/-- The output of a calculator, or a result that is shown. -/
def view (verbose : Bool) (v : SectionView) : Transcript :=
  match v.state with
  | .calculator (.ok output) => heading v.heading ++ [line (output.label ++ ": " ++ output.display)]
  | .calculator (.error e) => heading v.heading ++ [line ("Could not calculate: " ++ e.message)]
  | .shown rendered => heading v.heading ++ body rendered
  | .failed e => if verbose then [line s!"(section {v.index} hidden: {e.message})"] else []
  | _ => []

def completion (verbose : Bool) (successMessage : String) (r : SubmissionReport) : Transcript :=
  [line "Done ✅", line successMessage] ++
    if verbose then
      (r.failures.map fun f => line ("  " ++ f.effect ++ " failed: " ++ f.error)) ++
        r.contact.toList.map fun c => line ("Contact:\n" ++ c.toJson.pretty)
    else []

end Transcript

end AppDef
