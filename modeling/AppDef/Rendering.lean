import AppDef.Evaluation
import AppDef.Validation

namespace AppDef

inductive RenderStatus where
  /-- Required fields are not answered. -/
  | needInput
  | complete
  /-- A formula or a guard failed. -/
  | error
  deriving DecidableEq, Repr

def RenderStatus.name : RenderStatus → String
  | .needInput => "need_input"
  | .complete => "complete"
  | .error => "error"

structure RenderedField where
  field : Field
  current : Option Json

structure RenderedSection where
  view : SectionView
  fields : List RenderedField

/-- A document with its values, laid out for display. -/
structure Rendering where
  identity : Meta
  settings : Settings
  missingRequired : List String
  sections : List RenderedSection

namespace RenderedSection

/-- Only a result can be left out. -/
def isVisible (s : RenderedSection) : Bool :=
  match s.view.state with
  | .hidden | .failed _ => false
  | _ => true

def content? (s : RenderedSection) : Option String :=
  match s.view.state with
  | .text body => some body
  | .calculator (.ok output) => some (output.label ++ ": " ++ output.display)
  | .shown rendered => some rendered
  | _ => none

def error? (s : RenderedSection) : Option String :=
  s.view.state.error?.map ExprError.message

end RenderedSection

def Rendering.status (r : Rendering) : RenderStatus :=
  if !r.missingRequired.isEmpty then .needInput
  else if r.sections.any (·.error?.isSome) then .error
  else .complete

def Document.render (d : Document) (values : Values) : Except RenderError Rendering := do
  let env := d.environment values
  let views ← d.evaluate env
  return {
    identity := d.identity
    settings := d.settingsOrDefault
    missingRequired := (d.validate env).missingRequired
    sections := (d.sections.zip views).map fun (s, view) =>
      ⟨view, s.fields.map fun f => ⟨f, env.get? f.name⟩⟩ }

def RenderedField.toJson (r : RenderedField) : Json :=
  let f := r.field
  .object (List.flatten [
    [("name", .text f.name), ("label", .text f.label), ("type", .text f.kind.name),
      ("required", .bool f.required)],
    f.placeholder.toList.map fun s => ("placeholder", .text s),
    r.current.toList.map fun v => ("currentValue", v),
    if f.options.isEmpty then [] else [("options", .array (f.options.map fun o => .text o.value))]])

def RenderedSection.toJson (s : RenderedSection) : Json :=
  .object (List.flatten [
    [("index", .ofNat s.view.index), ("type", .text s.view.kind.name),
      ("heading", (s.view.heading.map Json.text).getD .null), ("visible", .bool s.isVisible)],
    s.content?.toList.map fun t => ("content", .text t),
    s.error?.toList.map fun t => ("error", .text t),
    if s.fields.isEmpty then [] else [("fields", .array (s.fields.map RenderedField.toJson))]])

def Rendering.toJson (r : Rendering) : Json :=
  .object [("slug", .text r.identity.slug), ("title", .text r.identity.title),
    ("description", .text r.identity.description), ("status", .text r.status.name),
    ("missingRequired", .array (r.missingRequired.map .text)),
    ("submitButtonText", .text r.settings.submitButtonText),
    ("sections", .array (r.sections.map RenderedSection.toJson))]

def RenderedField.line (r : RenderedField) : String :=
  " - " ++ r.field.name ++ " (" ++ r.field.label ++ ")" ++
    (if r.field.required then " [required]" else "") ++
    match r.current with
    | some v => " = " ++ v.display
    | none => ""

def RenderedSection.lines (s : RenderedSection) : List String :=
  List.flatten [
    ["[" ++ s.view.kind.name ++ "]" ++ ((s.view.heading.map (" " ++ ·)).getD "")],
    s.fields.map RenderedField.line,
    s.content?.toList.map ("   " ++ ·),
    s.error?.toList.map ("   error: " ++ ·)]

/-- Sections that are hidden have no lines. -/
def Rendering.toText (r : Rendering) : String :=
  "\n".intercalate (List.flatten [
    ["App: " ++ r.identity.title ++ " (" ++ r.identity.slug ++ ")", "Status: " ++ r.status.name],
    if r.missingRequired.isEmpty then [] else ["Missing: " ++ ", ".intercalate r.missingRequired],
    (r.sections.filter RenderedSection.isVisible).flatMap RenderedSection.lines])

end AppDef
