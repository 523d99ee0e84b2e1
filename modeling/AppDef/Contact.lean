import AppDef.Document.Basic
import AppDef.Json.Display
import AppDef.Text.Letters

namespace AppDef

/-- What a submission tells of the person behind it. -/
structure Contact where
  firstName : String
  lastName : Option String
  email : Option String
  phone : Option String
  source : String
  /-- Distinct tags in order. -/
  tags : Dict Unit
  deriving BEq, Inhabited

inductive ContactAttribute where
  | firstName
  | lastName
  | email
  | phone
  deriving DecidableEq, Repr

namespace ContactAttribute

def all : List ContactAttribute :=
  [.firstName, .lastName, .email, .phone]

def canonical : ContactAttribute → String
  | .firstName => "firstname"
  | .lastName => "lastname"
  | .email => "email"
  | .phone => "phone"

def isSeparator (c : Char) : Bool :=
  c == '_' || c == '-' || c == ' '

/-- A name in lower case and without its separators. -/
def normalize (target : String) : String :=
  Text.lowercase (String.ofList (target.toList.filter (!isSeparator ·)))

def ofTarget? (target : String) : Option ContactAttribute :=
  all.find? fun a => a.canonical == normalize target

/-- The fields that are consulted behind the ones a document maps. -/
def fallbackKeys : ContactAttribute → List String
  | .firstName => ["first_name", "firstName", "name"]
  | .lastName => ["last_name", "lastName"]
  | .email => ["email"]
  | .phone => ["phone"]

end ContactAttribute

namespace Contact

/-- A value that is not blank, as it is displayed. -/
def present? (values : Values) (key : String) : Option String :=
  let value? := values.get? key
  if Json.unanswered value? then none else value?.map fun v => Text.trimmed v.display

/-- The fields that may tell an attribute, the mapped ones first. -/
def keysFor (crm : Crm) (a : ContactAttribute) : List String :=
  (crm.fieldMap.filter fun entry => ContactAttribute.ofTarget? entry.2 == some a).map (·.1) ++
    a.fallbackKeys

def attribute? (crm : Crm) (values : Values) (a : ContactAttribute) : Option String :=
  (keysFor crm a).findSome? (present? values)

def build (crm : Crm) (values : Values) (defaultSource : String) : Contact where
  firstName := (attribute? crm values .firstName).getD ""
  lastName := attribute? crm values .lastName
  email := attribute? crm values .email
  phone := attribute? crm values .phone
  source := if Text.allBlank crm.source then defaultSource else crm.source
  tags := crm.tags

def toJson (c : Contact) : Json :=
  .object (List.flatten [
    [("firstName", .text c.firstName)],
    c.lastName.toList.map fun s => ("lastName", .text s),
    c.email.toList.map fun s => ("email", .text s),
    c.phone.toList.map fun s => ("phone", .text s),
    [("source", .text c.source), ("tags", .array (c.tags.keys.map .text))]])

end Contact

end AppDef
