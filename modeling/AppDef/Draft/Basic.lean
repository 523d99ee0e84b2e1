import AppDef.Document.Check
import AppDef.Draft.Fence

namespace AppDef

/-- What a generator answers. It may say that a request does not fit the sections there are, and
give an implementation of its own beside the document. -/
structure Draft where
  document : Document
  isComplex : Bool
  sourceCode : Option String
  deriving BEq, Inhabited

inductive DraftError where
  | emptyRequest
  | generator (message : String)
  | malformed (message : String)
  | notAnObject
  | schema (error : SchemaError)
  deriving DecidableEq, Repr

def DraftError.message : DraftError → String
  | .emptyRequest => "describe the app you want to generate"
  | .generator message => "generator failed: " ++ message
  | .malformed message => "malformed output: " ++ message
  | .notAnObject => "malformed output: expected a JSON object"
  | .schema e => e.message

namespace Draft

def complexKey : String := "isComplex"

def sourceKey : String := "sourceCode"

/-- The draft that the members of an object are. What is said beside the document is taken out of it. -/
def ofMembers (members : List (String × Json)) : Except DraftError Draft := do
  let isComplex := ((members.lookup complexKey).bind Json.asBool?).getD false
  let members := Members.swapRemove complexKey members
  let sourceCode := ((members.lookup sourceKey).bind Json.asText?).filter (!Text.allBlank ·)
  let members := Members.swapRemove sourceKey members
  let document ← (Document.ofJson (.object members)).mapError .schema
  return { document, isComplex, sourceCode }

/-- The draft in the answer of a generator. -/
def read (raw : String) : Except DraftError Draft := do
  match ← (Json.read (stripFence raw)).mapError .malformed with
  | .object members => ofMembers members
  | _ => .error .notAnObject

end Draft

end AppDef
