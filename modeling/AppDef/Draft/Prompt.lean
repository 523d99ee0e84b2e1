import AppDef.Document.Section
import AppDef.Draft.Basic
import AppDef.Draft.Schema

namespace AppDef.Draft

def knownKinds : List String :=
  [FieldKind.text, .email, .phone, .number, .select, .textarea, .checkbox, .radio, .hidden].map
    FieldKind.name

def rules : List String := [
  "Document rules:",
  "- meta.title, meta.slug and meta.description are required and non-empty; " ++
    "slug is lowercase words joined by '-'.",
  "- sections is an ordered array; each section has a \"type\" of: " ++
    ", ".intercalate (SectionKind.all.map SectionKind.name) ++ ".",
  "- field types: " ++ ", ".intercalate knownKinds ++
    ". select and radio fields need \"options\".",
  "- field names use lowercase letters, digits and underscores; they are the " ++
    "variables of formulas and the keys of submitted values.",
  "- calculator.formula is an arithmetic expression over input names " ++
    "(+ - * / % **, comparisons, && ||, cond ? a : b, min max abs round floor ceil sqrt pow).",
  "- calculator.resultFormat and result.template use \x7b\x7bname\x7d\x7d placeholders; " ++
    "\x7b\x7bresult\x7d\x7d is the latest calculator output.",
  "- result.showIf is a boolean expression over field names.",
  "- crm.fieldMap maps field names to contact attributes (firstName, lastName, email, phone)."]

def escapeHatch : String :=
  "If the request cannot be expressed with these sections, set \"" ++ complexKey ++
    "\": true and put a self-contained implementation in \"" ++ sourceKey ++
    "\", still filling meta and sections with the closest approximation."

/-- Fixed instructions, then the request. -/
def prompt (request : String) : String :=
  "\n".intercalate ([
      "You design small interactive web apps as a single JSON document.",
      "Respond with JSON only, no commentary.", ""] ++ rules ++
    ["", escapeHatch, "", "JSON Schema:", Schema.document.pretty, "", "Request:",
      Text.trimmed request, ""])

end AppDef.Draft
