import AppDef.Document.Section
import AppDef.Environment

namespace AppDef

open Json (Slot Source decodeText decodeFlag decodeOptional decodeList decodeMembers decodeRecord)

structure Meta where
  title : String
  slug : String
  description : String
  icon : Option String
  deriving BEq, Inhabited

/-- How submissions become contacts. -/
structure Crm where
  source : String
  /-- Distinct tags in order. -/
  tags : Dict Unit
  workflowId : Option String
  /-- The attribute of a contact for each field, in the order they were written. -/
  fieldMap : List (String × String)
  deriving BEq, Inhabited

/-- How a page looks. -/
structure Settings where
  showHeader : Bool
  showFooter : Bool
  submitButtonText : String
  successMessage : String
  redirectUrl : Option String
  deriving BEq, Inhabited

/-- The definition of an app by its identity, its sections, where its contacts go and how its page
looks. -/
structure Document where
  identity : Meta
  sections : List Section
  crm : Option Crm
  settings : Option Settings
  deriving BEq, Inhabited

def Meta.empty : Meta := ⟨"", "", "", none⟩

def Meta.slots : List (Slot Meta) := [
  .of "title" decodeText fun x m => { m with title := x },
  .of "slug" decodeText fun x m => { m with slug := x },
  .of "description" decodeText fun x m => { m with description := x },
  .of "icon" (decodeOptional decodeText) fun x m => { m with icon := x }]

def Meta.decode : Json.Decoder Meta :=
  Json.decodeStrict .direct "Meta" slots ["title", "slug", "description"] empty

def Crm.empty : Crm := ⟨"", {}, none, []⟩

def Crm.tagSet (tags : List String) : Dict Unit :=
  Dict.ofList (tags.map fun tag => (tag, ()))

def Crm.slots : List (Slot Crm) := [
  .of "source" decodeText fun x c => { c with source := x },
  .of "tags" (decodeList decodeText) fun x c => { c with tags := tagSet x },
  .of "workflowId" (decodeOptional decodeText) fun x c => { c with workflowId := x },
  .of "fieldMap" (decodeMembers decodeText) fun x c => { c with fieldMap := x }]

def Crm.decode : Json.Decoder Crm :=
  decodeRecord .direct "CrmConfig" slots empty

def Settings.default : Settings where
  showHeader := true
  showFooter := true
  submitButtonText := "Submit"
  successMessage := "Thanks! We'll be in touch."
  redirectUrl := none

def Settings.slots : List (Slot Settings) := [
  .of "showHeader" decodeFlag fun x s => { s with showHeader := x },
  .of "showFooter" decodeFlag fun x s => { s with showFooter := x },
  .of "submitButtonText" decodeText fun x s => { s with submitButtonText := x },
  .of "successMessage" decodeText fun x s => { s with successMessage := x },
  .of "redirectUrl" (decodeOptional decodeText) fun x s => { s with redirectUrl := x }]

def Settings.decode : Json.Decoder Settings :=
  decodeRecord .direct "Settings" slots .default

def Meta.toJson (m : Meta) : Json :=
  .object ([("title", .text m.title), ("slug", .text m.slug), ("description", .text m.description)] ++
    m.icon.toList.map fun s => ("icon", .text s))

def Crm.toJson (c : Crm) : Json :=
  .object (List.flatten [
    [("source", .text c.source), ("tags", .array (c.tags.keys.map .text))],
    c.workflowId.toList.map fun s => ("workflowId", .text s),
    [("fieldMap", .object (c.fieldMap.map fun (k, v) => (k, .text v)))]])

def Settings.toJson (s : Settings) : Json :=
  .object ([("showHeader", .bool s.showHeader), ("showFooter", .bool s.showFooter),
      ("submitButtonText", .text s.submitButtonText), ("successMessage", .text s.successMessage)] ++
    s.redirectUrl.toList.map fun u => ("redirectUrl", .text u))

namespace Document

def toJson (d : Document) : Json :=
  .object (List.flatten [
    [("meta", d.identity.toJson), ("sections", .array (d.sections.map Section.toJson))],
    d.crm.toList.map fun c => ("crm", c.toJson),
    d.settings.toList.map fun s => ("settings", s.toJson)])

def slug (d : Document) : String :=
  d.identity.slug

/-- Every field of every section, in order. -/
def fields (d : Document) : List Field :=
  d.sections.flatMap (·.fields)

def field? (d : Document) (name : String) : Option Field :=
  d.fields.find? (·.name == name)

def settingsOrDefault (d : Document) : Settings :=
  d.settings.getD .default

/-- The defaults of the named fields, the last one of a name. -/
def defaults (d : Document) : Environment :=
  d.fields.foldl (fun env f =>
    match f.defaultValue with
    | some v => if f.name.isEmpty then env else env.insert f.name v
    | none => env) {}

/-- The defaults of the fields with the captured values laid over them. -/
def environment (d : Document) (values : Values) : Environment :=
  d.defaults.overlay values

end Document

end AppDef
