import AppDef.Console.Command
import AppDef.Console.Walk
import AppDef.Engine.Basic
import AppDef.Lint
import AppDef.Rendering

namespace AppDef

/-- What a command sees. -/
structure Surroundings where
  /-- The text of a file, or why it cannot be read. -/
  file : String → Except String String
  /-- The configuration that the environment names. -/
  configPath : Option String
  lines : List String

/-- What a command prints and how it ends. -/
structure Ending where
  transcript : Transcript
  exit : Nat
  /-- More lines would have been read. -/
  awaits : Bool

/-- Why a command fails. -/
inductive CommandFailure where
  | told (message : String)
  | walk (failure : WalkFailure)

namespace CommandFailure

def message : CommandFailure → String
  | .told message => message
  | .walk failure => failure.message

/-- A number that cannot be shown ends the whole program. -/
def exit : CommandFailure → Nat
  | .walk (.unrenderable _) => 101
  | _ => 1

def awaits : CommandFailure → Bool
  | .walk .inputEnded => true
  | _ => false

end CommandFailure

namespace Console

open Transcript (line)

def version : String := "0.1.0"

def usage : String :=
  "Usage: appdef <check|render|eval|run|submit|prompt|generate> [--name value]..."

abbrev Loading (α : Type) := Except CommandFailure α

def told {α : Type} (r : Except String α) : Loading α :=
  r.mapError .told

def rendered {α : Type} (r : Except RenderError α) : Loading α :=
  r.mapError fun e => .walk (.unrenderable e)

def loadFile (w : Surroundings) (path : String) : Loading String :=
  told ((w.file path).mapError fun reason => "failed to read " ++ path ++ ": " ++ reason)

def loadJson (w : Surroundings) (path : String) : Loading Json := do
  told (Json.read (← loadFile w path))

def loadDocument (w : Surroundings) (path : String) : Loading Document := do
  told ((Document.ofJson (← loadJson w path)).mapError SchemaError.message)

def loadValues (w : Surroundings) (path? : Option String) : Loading Values :=
  match path? with
  | none => .ok {}
  | some path => do
    let values := (Json.decodeMap (← loadJson w path)).map Dict.ofList
    told (values.mapError fun e => "values must be a JSON object: " ++ e.message)

/-- The configuration that is named, or else the one that the environment names. -/
def loadConfig (w : Surroundings) (path? : Option String) : Loading EngineConfig := do
  match path?.or (w.configPath.filter (!·.isEmpty)) with
  | none => return .default
  | some path =>
    let text ← told ((w.file path).mapError fun reason =>
      "failed to read config " ++ path ++ ": " ++ reason)
    told (EngineConfig.read text)

def passingSinks : Sinks := ⟨.passing, .passing, .passing⟩

def noGenerator : Except CollaboratorError String :=
  .error (.unavailable "generator")

def printed (text : String) : Transcript :=
  [line text]

def check (d : Document) : Transcript :=
  line s!"{d.slug}: valid ({d.sections.length} sections)" ::
    d.lint.map fun issue =>
      line s!"warning: {issue.location} [{issue.code.name}] {issue.message}"

def render (d : Document) (values : Values) (format : RenderFormat) : Loading Transcript := do
  let r ← rendered (d.render values)
  match format with
  | .text => return printed r.toText
  | .json => return printed r.toJson.pretty

def eval (source : String) (values : Values) (isGuard : Bool) : Loading Transcript :=
  told ((if isGuard then (evaluateGuard source values).map toString
    else (evaluateFormula source values).map Number.display).map printed |>.mapError
      ExprError.message)

/-- A transcript, and a failure if what it tells of was refused. -/
abbrev Told := Transcript × Option CommandFailure

def submit (raw : Json) (d : Document) (values : Values) (config : EngineConfig) : Told :=
  let engine : Engine := ⟨config, passingSinks, none, noGenerator⟩
  let state := Engine.insert .empty config.storeStatus raw
  let response := (engine.submitRequest state ⟨d.slug, values⟩).1
  (printed response.toJson.pretty,
    if response.isAccepted then none else some (.told "submission rejected"))

def prompt (input : String) : Loading Transcript :=
  if Text.allBlank input then .error (.told DraftError.emptyRequest.message)
  else .ok (printed (Draft.prompt input))

def generate (input raw : String) : Told :=
  let engine : Engine := ⟨.default, passingSinks, none, .ok raw⟩
  let response := (engine.generateRequest .empty ⟨input⟩).1
  (printed response.toJson.pretty,
    match response with
    | .generated _ => none
    | .failed _ => some (.told "generation failed"))

/-- What is printed when a submission is accepted. -/
def accepted (verbose : Bool) (d : Document) (values : Values) (r : SubmissionReport) :
    Transcript :=
  (if verbose then [line ("Values:\n" ++ (Environment.toJson values).pretty)] else []) ++
    Transcript.completion verbose d.settingsOrDefault.successMessage r

/-- Submits what was captured. The fields that are refused are asked for again. -/
def rounds (verbose : Bool) (d : Document) (config : EngineConfig) : (fuel : Nat) → Walk Unit
  | 0 => throw .endless
  | fuel + 1 => do
    let values := (← get).values
    match (Submission.submit config passingSinks d values).1 with
    | .ok r => Walk.say (accepted verbose d values r)
    | .error (.invalid found) =>
      Walk.say (Transcript.fieldErrors found.errors)
      Walk.reask verbose d found.failingFields
      rounds verbose d config fuel
    | .error fault => throw (.refused fault.message)

/-- A round that reads no line leaves all refused fields at their defaults, so a second one changes nothing. -/
def roundFuel (lines : List String) : Nat :=
  2 * (lines.length + 2)

def session (verbose : Bool) (d : Document) (config : EngineConfig) : Walk Unit := do
  Walk.run verbose d
  rounds verbose d config (roundFuel (← get).lines)

def run (w : Surroundings) (verbose : Bool) (d : Document) (values : Values)
    (config : EngineConfig) : Told :=
  let (outcome, s) := session verbose d config ⟨w.lines, values, []⟩
  (s.transcript,
    match outcome with
    | .ok () => none
    | .error failure => some (.walk failure))

def quiet (t : Loading Transcript) : Loading Told :=
  t.map fun t => (t, none)

def perform (w : Surroundings) : Command → Loading Told
  | .check doc => return (check (← loadDocument w doc), none)
  | .render doc values format => do
    let d ← loadDocument w doc
    quiet (render d (← loadValues w values) format)
  | .eval expr values isGuard => do quiet (eval expr (← loadValues w values) isGuard)
  | .run doc values config verbose => do
    let d ← loadDocument w doc
    let values ← loadValues w values
    return run w verbose d values (← loadConfig w config)
  | .submit doc values config => do
    let raw ← loadJson w doc
    let d ← told ((Document.ofJson raw).mapError SchemaError.message)
    let values ← loadValues w (some values)
    return submit raw d values (← loadConfig w config)
  | .prompt input => quiet (prompt input)
  | .generate input response => return generate input (← loadFile w response)

/-- A failure is told on the standard error. -/
def ending : Transcript × Option CommandFailure → Ending
  | (t, none) => ⟨t, 0, false⟩
  | (t, some failure) =>
    ⟨t ++ [Transcript.errorLine ("error: " ++ failure.message)], failure.exit, failure.awaits⟩

/-- What a command line does. -/
def execute (w : Surroundings) (words : List String) : Ending :=
  match Command.read words with
  | .error .wrong => ⟨[Transcript.errorLine usage], 2, false⟩
  | .error .help => ⟨[line usage], 0, false⟩
  | .error .version => ⟨[line ("appdef " ++ version)], 0, false⟩
  | .ok command =>
    match perform w command with
    | .ok told => ending told
    | .error failure => ending ([], some failure)

end Console

end AppDef
