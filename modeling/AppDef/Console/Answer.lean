import AppDef.Document.Field
import AppDef.Json.Display

namespace AppDef

/-- What is shown when a field is asked for. -/
structure Prompt where
  label : String
  required : Bool
  hint : Option String
  current : Option String
  placeholder : Option String
  deriving DecidableEq, Repr, Inhabited

namespace Prompt

/-- The choices of a field, counted from one. -/
def choices (options : List FieldOption) : String :=
  "(" ++ ", ".intercalate (options.zipIdx.map fun (o, i) => s!"{i + 1}={o.label}") ++ ")"

def hintFor (f : Field) : Option String :=
  if f.kind = .number then some "(number)"
  else if f.kind = .checkbox then some "(yes/no)"
  else if f.kind = .email then some "(email)"
  else if f.kind.hasOptions && !f.options.isEmpty then some (choices f.options)
  else none

/-- A prompt shows the captured value, or else the default of the field. -/
def ofField (f : Field) (captured : Option Json) : Prompt where
  label := if Text.allBlank f.label then f.name else f.label
  required := f.required
  hint := hintFor f
  current := ((captured.or f.defaultValue).map Json.display).filter (!·.isEmpty)
  placeholder := f.placeholder

def line (p : Prompt) : String :=
  p.label ++ (if p.required then " *" else "") ++ ((p.hint.map (" " ++ ·)).getD "") ++
    (p.current.map fun s => " [" ++ s ++ "]").getD ""

end Prompt

inductive Answer where
  | value (value : Json)
  /-- An empty line keeps what there is. -/
  | keep
  | back
  deriving Inhabited

/-- Why a line is no answer, and what would have been one. -/
structure AnswerFault where
  message : String
  expected : Option String
  deriving DecidableEq, Repr, Inhabited

namespace Answer

/-- Typed to return to the step before. -/
def backCommand : String := ":back"

def ofNumber (raw : String) : Except AnswerFault Answer :=
  match Number.read? raw with
  | some x =>
    if x.isFinite then .ok (.value (.ofComputed x))
    else .error ⟨"Please enter a finite number.", some "number must be finite"⟩
  | none => .error ⟨"Please enter a number.", some "expected number"⟩

def ofFlag (raw : String) : Except AnswerFault Answer :=
  let word := Text.lowercase raw
  if ["true", "t", "yes", "y", "1"].contains word then .ok (.value (.bool true))
  else if ["false", "f", "no", "n", "0"].contains word then .ok (.value (.bool false))
  else .error ⟨"Please enter yes or no.", some "expected boolean (y/n/true/false)"⟩

/-- A whole number of at most 64 bits, which may carry a plus sign. -/
def count? (raw : String) : Option Nat :=
  let digits :=
    match raw.toList with
    | '+' :: rest => rest
    | s => s
  if digits.isEmpty || !digits.all Text.isDigit then none
  else
    let n := Text.digitsValue 0 digits
    if n < Nat.pow 2 64 then some n else none

/-- The option at a place that is counted from one. -/
def byPlace? (options : List FieldOption) (raw : String) : Option FieldOption :=
  match count? raw with
  | some (i + 1) => options[i]?
  | _ => none

def bySpelling? (options : List FieldOption) (raw : String) : Option FieldOption :=
  options.find? fun o => Text.sameLetters o.value raw || Text.sameLetters o.label raw

def ofOption (options : List FieldOption) (raw : String) : Except AnswerFault Answer :=
  match (byPlace? options raw).or (bySpelling? options raw) with
  | some o => .ok (.value (.text o.value))
  | none =>
    let allowed := ", ".intercalate (options.map (·.value))
    .error ⟨"Choose one of: " ++ allowed ++ ".", some ("allowed values: " ++ allowed)⟩

/-- What a typed line answers. -/
def read (f : Field) (raw : String) : Except AnswerFault Answer :=
  let line := Text.trimmed raw
  if line = backCommand then .ok .back
  else if line.isEmpty then .ok .keep
  else if f.kind = .number then ofNumber line
  else if f.kind = .checkbox then ofFlag line
  else if f.kind.hasOptions && !f.options.isEmpty then ofOption f.options line
  else .ok (.value (.text line))

end Answer

end AppDef
