import AppDef.Document.Basic
import AppDef.Json.Parse

namespace AppDef

inductive SchemaError where
  | missingMeta
  | missingMetaField (name : String)
  | sectionsNotList
  | invalidSectionType (index : Nat) (found : String)
  | malformed (message : String)
  deriving BEq, DecidableEq, Repr

def SchemaError.message : SchemaError → String
  | .missingMeta => "meta required"
  | .missingMetaField name => "meta." ++ name ++ " required"
  | .sectionsNotList => "sections must be an array"
  | .invalidSectionType index found =>
    s!"invalid section type {found} at sections[{index}] (expected one of " ++
      ", ".intercalate (SectionKind.all.map SectionKind.name) ++ ")"
  | .malformed message => "malformed document: " ++ message

namespace Document

def checkMeta (root : List (String × Json)) : Except SchemaError Unit :=
  match (root.lookup "meta").bind Json.asObject? with
  | none => .error .missingMeta
  | some identity =>
    ["title", "slug", "description"].forM fun key =>
      if ((identity.lookup key).bind Json.asText?).any fun s => !Text.allBlank s then .ok ()
      else .error (.missingMetaField key)

/-- What a section gives as its kind. -/
def describeKind : Option Json → String
  | none | some .null => "<missing>"
  | some (.text s) => s
  | some v => v.print

/-- The kinds of all sections, the first of which has the index `start`. -/
def checkKinds (start : Nat) : List Json → Except SchemaError Unit
  | [] => .ok ()
  | s :: rest =>
    match ((s.member? "type").bind Json.asText?).bind SectionKind.ofName? with
    | some _ => checkKinds (start + 1) rest
    | none => .error (.invalidSectionType start (describeKind (s.member? "type")))

/-- A section is an object that tells its kind. -/
def decodeSection : Json.Decoder Section
  | .object members =>
    match Section.kindOf? members with
    | some kind => Section.decodeAs kind members
    | none => .error (.missing "type")
  | v => Json.mismatch v (.record "Section")

def slots : List (Json.Slot Document) := [
  .of "meta" Meta.decode fun x d => { d with identity := x },
  .of "sections" (Json.decodeList decodeSection) fun x d => { d with sections := x },
  .of "crm" (Json.decodeOptional Crm.decode) fun x d => { d with crm := x },
  .of "settings" (Json.decodeOptional Settings.decode) fun x d => { d with settings := x }]

def empty : Document := ⟨.empty, [], none, none⟩

/-- A document whose texts may be blank. -/
def decode : Json.Decoder Document :=
  Json.decodeStrict .direct "Document" slots ["meta", "sections"] empty

/-- The first entry of a list that is not a field. -/
def badField? (path : String) (entries : List Json) : Option String :=
  entries.zipIdx.findSome? fun (entry, i) =>
    match Field.decode entry with
    | .ok _ => none
    | .error e => some s!"{path}[{i}]: {e.message}"

/-- The lists of fields that a section holds, whether or not its kind reads them. -/
def fieldLists (section_ : Json) : List (String × List Json) :=
  let direct := ["fields", "inputs"].filterMap fun key =>
    ((section_.member? key).bind Json.asArray?).map fun entries => (key, entries)
  let steps := (((section_.member? "steps").bind Json.asArray?).getD []).zipIdx.filterMap
    fun (step, i) =>
      ((step.member? "fields").bind Json.asArray?).map fun entries => (s!"steps[{i}].fields", entries)
  direct ++ steps

def badSection? (index : Nat) (section_ : Json) : Option String :=
  let base := s!"sections[{index}]"
  match (fieldLists section_).findSome? fun (path, entries) => badField? (base ++ "." ++ path) entries with
  | some message => some message
  | none =>
    match decodeSection section_ with
    | .ok _ => none
    | .error e => some (base ++ ": " ++ e.message)

/-- The first section that does not decode, or the list of fields in it that is at fault. -/
def locate? (sections : List Json) : Option String :=
  sections.zipIdx.findSome? fun (s, i) => badSection? i s

/-- The document that a value is. -/
def ofJson (raw : Json) : Except SchemaError Document := do
  match raw with
  | .object root =>
    checkMeta root
    match (root.lookup "sections").bind Json.asArray? with
    | none => .error .sectionsNotList
    | some sections =>
      checkKinds 0 sections
      match Json.decodeMembersInto slots empty root with
      | .ok d => .ok d
      | .error e => .error (.malformed ((locate? sections).getD e.message))
  | _ => .error .missingMeta

/-- The document that a text writes. -/
def read (text : String) : Except SchemaError Document :=
  match Json.read text with
  | .ok raw => ofJson raw
  | .error message => .error (.malformed message)

end Document

end AppDef
