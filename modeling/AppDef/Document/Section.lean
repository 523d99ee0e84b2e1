import AppDef.Document.Field

namespace AppDef

/-- Static content. -/
structure TextSection where
  heading : Option String
  body : String
  deriving BEq, Inhabited

/-- A flat list of fields. -/
structure FormSection where
  heading : Option String
  fields : List Field
  deriving BEq, Inhabited

/-- Fields and a formula over them. -/
structure CalculatorSection where
  heading : Option String
  inputs : List Field
  formula : String
  resultLabel : String
  /-- A template in which `result` is the value of the formula. -/
  resultFormat : Option String
  deriving BEq, Inhabited

structure WizardStep where
  title : String
  description : Option String
  fields : List Field
  deriving BEq, Inhabited

/-- Steps in order, each to be answered before the next. -/
structure WizardSection where
  heading : Option String
  steps : List WizardStep
  deriving BEq, Inhabited

/-- A template that is shown when its guard holds. -/
structure ResultSection where
  heading : Option String
  template : String
  showIf : Option String
  deriving BEq, Inhabited

inductive SectionKind where
  | text
  | form
  | calculator
  | wizard
  | result
  deriving DecidableEq, Repr

namespace SectionKind

def all : List SectionKind :=
  [.text, .form, .calculator, .wizard, .result]

def name : SectionKind → String
  | .text => "text"
  | .form => "form"
  | .calculator => "calculator"
  | .wizard => "wizard"
  | .result => "result"

def ofName? (name : String) : Option SectionKind :=
  all.find? fun k => k.name == name

end SectionKind

/-- The parts of a document, which are shown in order. -/
inductive Section where
  | text (part : TextSection)
  | form (part : FormSection)
  | calculator (part : CalculatorSection)
  | wizard (part : WizardSection)
  | result (part : ResultSection)
  deriving BEq, Inhabited

open Json (Slot Source decodeText decodeOptional decodeList decodeRecord)

def TextSection.empty : TextSection := ⟨none, ""⟩

def TextSection.slots : List (Slot TextSection) := [
  .of "heading" (decodeOptional decodeText) fun x s => { s with heading := x },
  .of "body" decodeText fun x s => { s with body := x }]

def FormSection.empty : FormSection := ⟨none, []⟩

def FormSection.slots : List (Slot FormSection) := [
  .of "heading" (decodeOptional decodeText) fun x s => { s with heading := x },
  .of "fields" (decodeList Field.decode) fun x s => { s with fields := x }]

def CalculatorSection.empty : CalculatorSection := ⟨none, [], "", "", none⟩

def CalculatorSection.slots : List (Slot CalculatorSection) := [
  .of "heading" (decodeOptional decodeText) fun x s => { s with heading := x },
  .of "inputs" (decodeList Field.decode) fun x s => { s with inputs := x },
  .of "formula" decodeText fun x s => { s with formula := x },
  .of "resultLabel" decodeText fun x s => { s with resultLabel := x },
  .of "resultFormat" (decodeOptional decodeText) fun x s => { s with resultFormat := x }]

def CalculatorSection.decode (source : Source) : Json.Decoder CalculatorSection :=
  decodeRecord source "CalculatorSection" slots empty

def WizardStep.empty : WizardStep := ⟨"", none, []⟩

def WizardStep.slots : List (Slot WizardStep) := [
  .of "title" decodeText fun x s => { s with title := x },
  .of "description" (decodeOptional decodeText) fun x s => { s with description := x },
  .of "fields" (decodeList Field.decode) fun x s => { s with fields := x }]

def WizardStep.decode (source : Source) : Json.Decoder WizardStep :=
  decodeRecord source "WizardStep" slots empty

def WizardSection.empty : WizardSection := ⟨none, []⟩

def WizardSection.slots (source : Source) : List (Slot WizardSection) := [
  .of "heading" (decodeOptional decodeText) fun x s => { s with heading := x },
  .of "steps" (decodeList (WizardStep.decode source)) fun x s => { s with steps := x }]

def WizardSection.decode (source : Source) : Json.Decoder WizardSection :=
  decodeRecord source "WizardSection" (slots source) empty

def ResultSection.empty : ResultSection := ⟨none, "", none⟩

def ResultSection.slots : List (Slot ResultSection) := [
  .of "heading" (decodeOptional decodeText) fun x s => { s with heading := x },
  .of "template" decodeText fun x s => { s with template := x },
  .of "showIf" (decodeOptional decodeText) fun x s => { s with showIf := x }]

namespace Section

/-- The members of a section of a known kind. -/
def decodeAs (kind : SectionKind) (members : List (String × Json)) :
    Except Json.ShapeError Section :=
  match kind with
  | .text => (Json.decodeMembersInto TextSection.slots .empty members).map .text
  | .form => (Json.decodeMembersInto FormSection.slots .empty members).map .form
  | .calculator => (Json.decodeMembersInto CalculatorSection.slots .empty members).map .calculator
  | .wizard => (Json.decodeMembersInto (WizardSection.slots .kept) .empty members).map .wizard
  | .result => (Json.decodeMembersInto ResultSection.slots .empty members).map .result

def kindOf? (members : List (String × Json)) : Option SectionKind :=
  ((members.lookup "type").bind Json.asText?).bind SectionKind.ofName?

def kind : Section → SectionKind
  | .text _ => .text
  | .form _ => .form
  | .calculator _ => .calculator
  | .wizard _ => .wizard
  | .result _ => .result

def heading : Section → Option String
  | .text s => s.heading
  | .form s => s.heading
  | .calculator s => s.heading
  | .wizard s => s.heading
  | .result s => s.heading

/-- The fields that a section captures, in the order in which they are shown. -/
def fields : Section → List Field
  | .form s => s.fields
  | .calculator s => s.inputs
  | .wizard s => s.steps.flatMap (·.fields)
  | .text _ | .result _ => []

end Section

def headingMember (heading : Option String) : List (String × Json) :=
  heading.toList.map fun s => ("heading", .text s)

def encodeFields (fields : List Field) : Json :=
  .array (fields.map Field.toJson)

def WizardStep.toJson (s : WizardStep) : Json :=
  .object (List.flatten [
    [("title", .text s.title)],
    s.description.toList.map fun d => ("description", .text d),
    [("fields", encodeFields s.fields)]])

def Section.members : Section → List (String × Json)
  | .text s => headingMember s.heading ++ [("body", .text s.body)]
  | .form s => headingMember s.heading ++ [("fields", encodeFields s.fields)]
  | .calculator s =>
    headingMember s.heading ++
      [("inputs", encodeFields s.inputs), ("formula", .text s.formula),
        ("resultLabel", .text s.resultLabel)] ++
      s.resultFormat.toList.map fun f => ("resultFormat", .text f)
  | .wizard s => headingMember s.heading ++ [("steps", .array (s.steps.map WizardStep.toJson))]
  | .result s =>
    headingMember s.heading ++ [("template", .text s.template)] ++
      s.showIf.toList.map fun g => ("showIf", .text g)

def Section.toJson (s : Section) : Json :=
  .object (("type", .text s.kind.name) :: s.members)

end AppDef
