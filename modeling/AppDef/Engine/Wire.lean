import AppDef.Draft.Basic
import AppDef.Engine.Submission

namespace AppDef

structure SubmitRequest where
  slug : String
  values : Values
  deriving BEq, Inhabited

namespace SubmitRequest

def shape : Json.Record where
  name := "SubmitRequest"
  members := [("slug", .text), ("values", .map)]
  optional := [false, true]

def ofGiven : Json.Given → SubmitRequest
  | [slug, values] => {
      slug := (slug.bind Json.asText?).getD ""
      values := Dict.ofList ((values.bind Json.asObject?).getD []) }
  | _ => default

def read (text : String) : Except String SubmitRequest :=
  (shape.read text).map ofGiven

end SubmitRequest

structure GenerateRequest where
  input : String
  deriving DecidableEq, Repr, Inhabited

namespace GenerateRequest

def shape : Json.Record where
  name := "GenerateRequest"
  members := [("input", .text)]
  optional := [false]

def ofGiven : Json.Given → GenerateRequest
  | [input] => ⟨(input.bind Json.asText?).getD ""⟩
  | _ => default

def read (text : String) : Except String GenerateRequest :=
  (shape.read text).map ofGiven

end GenerateRequest

/-- The first alternative that a value has. -/
def decodeFirst {α : Type} (name : String) (alternatives : List (Json.Decoder α)) :
    Json.Decoder α := fun v =>
  match alternatives.findSome? fun decode => (decode v).toOption with
  | some a => .ok a
  | none => .error (.noVariant name)

/-- The value under a name in an object, if there is one. -/
def decodeMember {α : Type} (name : String) (decode : Json.Decoder α) : Json.Decoder α
  | .object members =>
    match members.lookup name with
    | some v => decode v
    | none => .error (.missing name)
  | v => Json.mismatch v .map

/-- What a submitter is told. -/
inductive SubmitResponse where
  | rejected (flag : Bool) (errors : List FieldError)
  | accepted (flag : Bool)
  | failed (message : String)
  deriving DecidableEq, Repr, Inhabited

namespace SubmitResponse

def isAccepted (r : SubmitResponse) : Bool :=
  r == .accepted true

def toJson : SubmitResponse → Json
  | .rejected flag errors =>
    .object [("accepted", .bool flag), ("errors", .array (errors.map FieldError.toJson))]
  | .accepted flag => .object [("accepted", .bool flag)]
  | .failed message => .object [("error", .text message)]

def decodeRejected : Json.Decoder SubmitResponse := fun v => do
  return .rejected (← decodeMember "accepted" Json.decodeFlag v)
    (← decodeMember "errors" (Json.decodeList FieldError.decode) v)

def decodeAccepted : Json.Decoder SubmitResponse := fun v => do
  return .accepted (← decodeMember "accepted" Json.decodeFlag v)

def decodeFailed : Json.Decoder SubmitResponse := fun v => do
  return .failed (← decodeMember "error" Json.decodeText v)

def decode : Json.Decoder SubmitResponse :=
  decodeFirst "SubmitResponse" [decodeRejected, decodeAccepted, decodeFailed]

end SubmitResponse

/-- What becomes of a request for a draft. -/
inductive GenerateResponse where
  | generated (draft : Draft)
  | failed (message : String)
  deriving BEq, Inhabited

namespace GenerateResponse

def toJson : GenerateResponse → Json
  | .generated draft =>
    .object ([("definition", draft.document.toJson), ("isComplex", .bool draft.isComplex)] ++
      draft.sourceCode.toList.map fun s => ("sourceCode", .text s))
  | .failed message => .object [("error", .text message)]

def decodeGenerated : Json.Decoder GenerateResponse := fun v => do
  return .generated {
    document := ← decodeMember "definition" Document.decode v
    isComplex := ← decodeMember "isComplex" Json.decodeFlag v
    sourceCode := ←
      match v.member? "sourceCode" with
      | some code => Json.decodeOptional Json.decodeText code
      | none => .ok none }

def decodeFailed : Json.Decoder GenerateResponse := fun v => do
  return .failed (← decodeMember "error" Json.decodeText v)

def decode : Json.Decoder GenerateResponse :=
  decodeFirst "GenerateResponse" [decodeGenerated, decodeFailed]

end GenerateResponse

/-- A body that tells of an error. -/
def errorBody (message : String) : String :=
  (Json.object [("error", .text message)]).print

end AppDef
