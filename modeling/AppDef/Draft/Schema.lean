import AppDef.Json.Basic

namespace AppDef.Draft.Schema

def obj (members : List (String × Json)) : Json :=
  .object members

def texts (names : List String) : Json :=
  .array (names.map .text)

def ref (name : String) : Json :=
  obj [("$ref", .text ("#/$defs/" ++ name))]

def typed (name : String) : Json :=
  obj [("type", .text name)]

def typedOr (name : String) (value : Json) : Json :=
  obj [("type", .text name), ("default", value)]

def text : Json := typed "string"

def optionalText : Json :=
  obj [("type", texts ["string", "null"])]

def textOr (value : String) : Json :=
  typedOr "string" (.text value)

def flagOr (value : Bool) : Json :=
  typedOr "boolean" (.bool value)

def optionalNumber : Json :=
  obj [("type", texts ["number", "null"]), ("format", .text "double")]

def optionalRef (name : String) : Json :=
  obj [("anyOf", .array [ref name, typed "null"])]

def listOf (name : String) : Json :=
  obj [("type", .text "array"), ("items", ref name)]

def listOrEmpty (name : String) : Json :=
  obj [("type", .text "array"), ("items", ref name), ("default", .array [])]

/-- A record. It may be described, and some of its members may be required. -/
def record (description : Option String) (properties : List (String × Json))
    (required : List String) : Json :=
  obj (List.flatten [
    description.toList.map fun d => ("description", .text d),
    [("type", .text "object"), ("properties", obj properties)],
    if required.isEmpty then [] else [("required", texts required)]])

def identity : Json :=
  record (some "Identity and listing metadata.")
    [("title", text), ("slug", text), ("description", text), ("icon", optionalText)]
    ["title", "slug", "description"]

/-- A section of one kind, told by its tag. -/
def sectionOf (tag name : String) : Json :=
  obj [("type", .text "object"),
    ("properties", obj [("type", obj [("type", .text "string"), ("const", .text tag)])]),
    ("$ref", .text ("#/$defs/" ++ name)), ("required", texts ["type"])]

def anySection : Json :=
  obj [("description", .text "One ordered unit of a document, tagged by `type`."),
    ("oneOf", .array [sectionOf "text" "TextSection", sectionOf "form" "FormSection",
      sectionOf "calculator" "CalculatorSection", sectionOf "wizard" "WizardSection",
      sectionOf "result" "ResultSection"])]

def textSection : Json :=
  record (some "Static content. `body` is HTML and opaque to the engine.")
    [("heading", optionalText), ("body", textOr "")] []

def field : Json :=
  record (some "One captured input. `name` is both the formula variable and the submission key.")
    [("name", textOr ""), ("label", textOr ""), ("type", textOr "text"),
      ("placeholder", optionalText), ("required", flagOr false), ("options", listOf "FieldOption"),
      ("defaultValue", .bool true), ("validation", optionalRef "FieldValidation")] []

def fieldOption : Json :=
  obj [("description",
      .text "A select/radio choice, either a bare string or a label/value pair."),
    ("anyOf", .array [text, record none [("label", text), ("value", text)] ["label", "value"]])]

def constraints : Json :=
  record (some "Constraints checked when a value is captured or submitted.")
    [("min", optionalNumber), ("max", optionalNumber), ("pattern", optionalText),
      ("message", optionalText)] []

def formSection : Json :=
  record (some "A flat list of inputs.")
    [("heading", optionalText), ("fields", listOrEmpty "Field")] []

def resultFormat : Json :=
  obj [("description",
      .text "Template with `\x7b\x7bresult\x7d\x7d` bound to the formula output."),
    ("type", texts ["string", "null"])]

def calculatorSection : Json :=
  record (some "Inputs plus a formula recomputed whenever the inputs change.")
    [("heading", optionalText), ("inputs", listOrEmpty "Field"), ("formula", textOr ""),
      ("resultLabel", textOr ""), ("resultFormat", resultFormat)] []

def wizardStep : Json :=
  record none
    [("title", textOr ""), ("description", optionalText), ("fields", listOrEmpty "Field")] []

def wizardSection : Json :=
  record (some "Ordered steps, each gated on its own required fields.")
    [("heading", optionalText), ("steps", listOrEmpty "WizardStep")] []

def resultSection : Json :=
  record (some "A template shown once its guard holds.")
    [("heading", optionalText), ("template", textOr ""), ("showIf", optionalText)] []

def tags : Json :=
  obj [("type", .text "array"), ("uniqueItems", .bool true), ("items", text),
    ("default", .array [])]

def fieldMap : Json :=
  obj [("description", .text "Submitted field name to contact attribute, in authoring order."),
    ("type", .text "object"), ("additionalProperties", text), ("default", obj [])]

def crm : Json :=
  record (some "Outbound contact mapping.")
    [("source", textOr ""), ("tags", tags), ("workflowId", optionalText), ("fieldMap", fieldMap)] []

def settings : Json :=
  record (some "Page chrome options passed through to renderers.")
    [("showHeader", flagOr true), ("showFooter", flagOr true),
      ("submitButtonText", textOr "Submit"),
      ("successMessage", textOr "Thanks! We'll be in touch."), ("redirectUrl", optionalText)] []

/-- The dialect that the schema is written in. -/
def dialect : String :=
  "https://json-schema.org/draft/2020-12/schema"

/-- The schema of documents that generators are given. -/
def document : Json :=
  obj [("$schema", .text dialect),
    ("title", .text "Document"), ("description", .text "Top-level app definition."),
    ("type", .text "object"),
    ("properties", obj [("meta", ref "Meta"), ("sections", listOf "Section"),
      ("crm", optionalRef "CrmConfig"), ("settings", optionalRef "Settings")]),
    ("required", texts ["meta", "sections"]),
    ("$defs", obj [("Meta", identity), ("Section", anySection), ("TextSection", textSection),
      ("Field", field), ("FieldOption", fieldOption), ("FieldValidation", constraints),
      ("FormSection", formSection), ("CalculatorSection", calculatorSection),
      ("WizardStep", wizardStep), ("WizardSection", wizardSection),
      ("ResultSection", resultSection), ("CrmConfig", crm), ("Settings", settings)])]

end AppDef.Draft.Schema
