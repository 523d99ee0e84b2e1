import AppDef.Document.Basic
import AppDef.Pattern.Match
import AppDef.Scalar

namespace AppDef

/-- A constraint that a value does not meet. -/
inductive Violation where
  | required
  | notANumber
  | belowMinimum (bound : Float)
  | aboveMaximum (bound : Float)
  | notAnEmail
  | notAnOption
  | patternMismatch

namespace Violation

def code : Violation → String
  | .required => "required"
  | .notANumber => "not_a_number"
  | .belowMinimum _ => "min"
  | .aboveMaximum _ => "max"
  | .notAnEmail => "invalid_email"
  | .notAnOption => "invalid_option"
  | .patternMismatch => "pattern_mismatch"

def isRequired : Violation → Bool
  | .required => true
  | _ => false

/-- What is said about `subject`. -/
def describe (subject : String) : Violation → String
  | .required => subject ++ " is required"
  | .notANumber => subject ++ " must be a number"
  | .belowMinimum bound => subject ++ " must be at least " ++ Number.display bound
  | .aboveMaximum bound => subject ++ " must be at most " ++ Number.display bound
  | .notAnEmail => subject ++ " must be a valid email address"
  | .notAnOption => subject ++ " must be one of the listed options"
  | .patternMismatch => subject ++ " is invalid"

end Violation

structure FieldError where
  field : String
  message : String
  code : String
  deriving DecidableEq, Repr, Inhabited

def FieldError.toJson (e : FieldError) : Json :=
  .object [("field", .text e.field), ("message", .text e.message), ("code", .text e.code)]

def FieldError.slots : List (Json.Slot FieldError) := [
  .of "field" Json.decodeText fun x e => { e with field := x },
  .of "message" Json.decodeText fun x e => { e with message := x },
  .of "code" Json.decodeText fun x e => { e with code := x }]

def FieldError.decode : Json.Decoder FieldError :=
  Json.decodeStrict .kept "FieldError" slots ["field", "message", "code"] ⟨"", "", ""⟩

namespace Pattern

def oneOrMore (set : CharSet) : Pattern :=
  .repetition (.one set) 1 none

/-- All characters but blanks and at signs. -/
def addressPart : CharSet :=
  .complement (.union [.ranges Text.blanks, .single '@'])

/-- Some text, an at sign, and texts on both sides of a point. -/
def emailAddress : Pattern :=
  .concat [.look .start, oneOrMore addressPart, .one (.single '@'), oneOrMore addressPart,
    .one (.single '.'), oneOrMore addressPart, .look .stop]

/-- The pattern that asks `source` of a whole text, unless `source` is malformed. -/
def whole? (source : String) : Option Pattern :=
  (compile ("^(?:".toList ++ source.toList ++ ")$".toList)).toOption

end Pattern

namespace Field

/-- The constraints of a field without any are empty. -/
def bounds (f : Field) : Constraints :=
  f.constraints.getD .none

def numberViolation? (f : Field) (value : Json) : Option Violation :=
  match (Scalar.ofJson value).asNumber?.filter (·.isFinite) with
  | none => some .notANumber
  | some x =>
    ((f.bounds.min.filter (x < ·)).map .belowMinimum).or
      ((f.bounds.max.filter (· < x)).map .aboveMaximum)

def optionViolation? (f : Field) (value : Json) : Option Violation :=
  if f.options.isEmpty || f.options.any (·.value == value.display) then none
  else some .notAnOption

/-- A pattern that is malformed asks for nothing. -/
def textViolation? (f : Field) (value : Json) : Option Violation :=
  let text := value.display
  if f.kind = .email && !Pattern.emailAddress.occursIn (Text.trimmed text) then some .notAnEmail
  else if (f.bounds.pattern.bind Pattern.whole?).any (!·.occursIn text) then some .patternMismatch
  else none

def answerViolation? (f : Field) (value : Json) : Option Violation :=
  if f.kind = .number then f.numberViolation? value
  else if f.kind.hasOptions then f.optionViolation? value
  else if f.kind.isTextLike then f.textViolation? value
  else none

/-- What `value?` does not meet. A checkbox is answered by what holds true, all else by what is not blank. -/
def violation? (f : Field) (value? : Option Json) : Option Violation :=
  if f.kind = .checkbox then
    if f.required && !value?.any (Scalar.ofJson · |>.truthy) then some .required else none
  else if Json.unanswered value? then
    if f.required then some .required else none
  else value?.bind f.answerViolation?

/-- The label of a field, or its name if it has none. -/
def subject (f : Field) : String :=
  if f.label.isEmpty then f.name else f.label

/-- A message of the field's own is used for whatever is not met. -/
def report (f : Field) (v : Violation) : FieldError where
  field := f.name
  message := f.bounds.message.getD (v.describe f.subject)
  code := v.code

def check (f : Field) (value? : Option Json) : Option FieldError :=
  (f.violation? value?).map f.report

/-- The field is required, and what was captured does not answer it. -/
def isLacking (f : Field) (value? : Option Json) : Bool :=
  (f.violation? value?).any Violation.isRequired

end Field

/-- What a check of several fields found. -/
structure Validation where
  errors : List FieldError
  missingRequired : List String
  deriving DecidableEq, Repr, Inhabited

namespace Validation

def valid (v : Validation) : Bool :=
  v.errors.isEmpty

def failingFields (v : Validation) : List String :=
  v.errors.map (·.field)

def toJson (v : Validation) : Json :=
  .object [("valid", .bool v.valid), ("errors", .array (v.errors.map FieldError.toJson)),
    ("missingRequired", .array (v.missingRequired.map .text))]

end Validation

/-- Every field is checked, in order. -/
def validate (fields : List Field) (values : Values) : Validation where
  errors := fields.filterMap fun f => f.check (values.get? f.name)
  missingRequired := (fields.filter fun f => f.isLacking (values.get? f.name)).map (·.name)

def Document.validate (d : Document) (values : Values) : Validation :=
  AppDef.validate d.fields values

end AppDef
