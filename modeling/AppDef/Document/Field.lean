import AppDef.Dict
import AppDef.Json.Slot
import AppDef.Number.Reading
import AppDef.Text.Blank

namespace AppDef

/-- What a field captures. Kinds that are not known are kept under their name. -/
inductive FieldKind where
  | text
  | email
  | phone
  | number
  | select
  | textarea
  | checkbox
  | radio
  | hidden
  | other (name : String)
  deriving DecidableEq, Repr, Inhabited

namespace FieldKind

def name : FieldKind → String
  | .text => "text"
  | .email => "email"
  | .phone => "phone"
  | .number => "number"
  | .select => "select"
  | .textarea => "textarea"
  | .checkbox => "checkbox"
  | .radio => "radio"
  | .hidden => "hidden"
  | .other name => name

def ofName : String → FieldKind
  | "text" => .text
  | "email" => .email
  | "phone" => .phone
  | "tel" => .phone
  | "number" => .number
  | "select" => .select
  | "textarea" => .textarea
  | "checkbox" => .checkbox
  | "radio" => .radio
  | "hidden" => .hidden
  | name => .other name

def isKnown : FieldKind → Bool
  | .other _ => false
  | _ => true

/-- Kinds of free text, to which patterns apply. -/
def isTextLike : FieldKind → Bool
  | .text | .email | .phone | .textarea | .hidden => true
  | _ => false

/-- Kinds that have to declare options. -/
def hasOptions : FieldKind → Bool
  | .select | .radio => true
  | _ => false

end FieldKind

/-- A choice: a value, or a value with a label of its own. -/
inductive FieldOption where
  | plain (value : String)
  | labeled (label value : String)
  deriving DecidableEq, Repr, Inhabited

namespace FieldOption

def value : FieldOption → String
  | .plain v => v
  | .labeled _ v => v

def label : FieldOption → String
  | .plain v => v
  | .labeled l _ => l

/-- The text of a text, a number or a flag. -/
def scalarText? : Json → Option String
  | .text s => some s
  | .number n => some n.print
  | .bool b => some (toString b)
  | _ => none

/-- An object is a choice if it has a value, which is then also its label unless it has one. -/
def ofJson? : Json → Option FieldOption
  | .object members => do
    let value ← (members.lookup "value").bind scalarText?
    let label := ((members.lookup "label").bind scalarText?).getD value
    return .labeled label value
  | v => (scalarText? v).map .plain

def toJson : FieldOption → Json
  | .plain v => .text v
  | .labeled l v => .object [("label", .text l), ("value", .text v)]

end FieldOption

/-- What a captured value has to meet besides its kind. -/
structure Constraints where
  min : Option Float
  max : Option Float
  pattern : Option String
  message : Option String
  deriving BEq, Inhabited

namespace Constraints

def none : Constraints := ⟨.none, .none, .none, .none⟩

/-- A finite number, or a text that writes one. -/
def bound? : Json → Option Float
  | .number n => Option.some n.toFloat |>.filter (·.isFinite)
  | .text s => (Number.read? (Text.trimmed s)).filter (·.isFinite)
  | _ => .none

def ofMembers (members : List (String × Json)) : Constraints where
  min := (members.lookup "min").bind bound?
  max := (members.lookup "max").bind bound?
  pattern := (members.lookup "pattern").bind Json.asText?
  message := (members.lookup "message").bind Json.asText?

/-- Constraints may be written as a list in the order minimum, maximum, pattern, message. -/
def ofJson? : Json → Option Constraints
  | .object members => some (ofMembers members)
  | .array items =>
    if 4 < items.length then .none
    else some (ofMembers (["min", "max", "pattern", "message"].zip items))
  | _ => .none

def toJson (c : Constraints) : Json :=
  .object (List.flatten [
    c.min.toList.map fun x => ("min", .ofFloat x),
    c.max.toList.map fun x => ("max", .ofFloat x),
    c.pattern.toList.map fun s => ("pattern", .text s),
    c.message.toList.map fun s => ("message", .text s)])

end Constraints

/-- No attribute of a field is a reason to refuse a document: one of the wrong shape reads as if it
were absent. -/
structure Field where
  name : String
  label : String
  kind : FieldKind
  placeholder : Option String
  required : Bool
  options : List FieldOption
  defaultValue : Option Json
  constraints : Option Constraints
  /-- Members that are kept and not interpreted. -/
  extra : Dict Json
  deriving BEq, Inhabited

namespace Field

def memberNames : List String :=
  ["name", "label", "type", "placeholder", "required", "options", "defaultValue", "validation"]

def flagOf : Json → Bool
  | .bool b => b
  | .text s => Text.sameLetters (Text.trimmed s) "true"
  | _ => false

def optionsOf : Json → List FieldOption
  | .array entries => entries.filterMap FieldOption.ofJson?
  | _ => []

/-- A value that is not null. -/
def given? : Json → Option Json
  | .null => none
  | v => some v

def ofMembers (members : List (String × Json)) : Field where
  name := ((members.lookup "name").bind Json.asText?).getD ""
  label := ((members.lookup "label").bind Json.asText?).getD ""
  kind := (((members.lookup "type").bind Json.asText?).map FieldKind.ofName).getD .text
  placeholder := (members.lookup "placeholder").bind Json.asText?
  required := ((members.lookup "required").map flagOf).getD false
  options := ((members.lookup "options").map optionsOf).getD []
  defaultValue := (members.lookup "defaultValue").bind given?
  constraints := (members.lookup "validation").bind Constraints.ofJson?
  extra := Dict.ofList (members.filter fun m => !memberNames.contains m.1)

def decode : Json.Decoder Field
  | .object members => .ok (ofMembers members)
  | v => Json.mismatch v (.record "Field")

def toJson (f : Field) : Json :=
  .object (List.flatten [
    [("name", .text f.name), ("label", .text f.label), ("type", .text f.kind.name)],
    f.placeholder.toList.map fun s => ("placeholder", .text s),
    [("required", .bool f.required)],
    if f.options.isEmpty then [] else [("options", .array (f.options.map FieldOption.toJson))],
    f.defaultValue.toList.map fun v => ("defaultValue", v),
    f.constraints.toList.map fun c => ("validation", c.toJson),
    f.extra.entries])

/-- Field names are to be of lowercase letters, digits and underscores. -/
def isIdentifier (name : String) : Bool :=
  !name.isEmpty && name.toList.all fun c => Text.isLower c || Text.isDigit c || c == '_'

def hasValidName (f : Field) : Bool :=
  isIdentifier f.name

end Field

end AppDef
