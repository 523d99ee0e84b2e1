import AppDef.Draft.Prompt
import AppDef.Engine.Store
import AppDef.Engine.Wire

namespace AppDef

/-- The setup of an engine, which never changes. -/
structure Engine where
  config : EngineConfig
  sinks : Sinks
  /-- The error that every look into the store meets, if it is out of order. -/
  storeFault : Option CollaboratorError
  /-- What the generator answers to every prompt. -/
  completion : Except CollaboratorError String

/-- What is stored and what the collaborators were asked so far. -/
structure EngineState where
  store : Store
  /-- Every call to a sink, in order. -/
  calls : List Effect
  prompts : List String

def EngineState.empty : EngineState := ⟨.empty, [], []⟩

namespace Engine

def contacts (e : Engine) (s : EngineState) : List Contact :=
  e.sinks.contacts.kept (s.calls.filterMap Effect.contact?)

def enrollments (e : Engine) (s : EngineState) : List Enrollment :=
  e.sinks.workflows.kept (s.calls.filterMap Effect.enrollment?)

def events (e : Engine) (s : EngineState) : List ConversionEvent :=
  e.sinks.events.kept (s.calls.filterMap Effect.event?)

def insert (s : EngineState) (status : String) (raw : Json) : EngineState :=
  { s with store := s.store.insert status raw }

/-- What the store answers, or its fault. -/
def lookUp {α : Type} (e : Engine) (answer : α) : Except CollaboratorError α :=
  match e.storeFault with
  | some fault => .error fault
  | none => .ok answer

/-- The document published under a slug. -/
def load (e : Engine) (s : EngineState) (slug : String) : Except SubmitError Document := do
  match ← (e.lookUp (s.store.get? slug e.config.storeStatus)).mapError .store with
  | none => .error (.notFound slug)
  | some raw => (Document.ofJson raw).mapError .schema

/-- What identifies the active documents. A document that is no longer valid is passed over. -/
def catalog (e : Engine) (s : EngineState) : Except CollaboratorError (List Meta) := do
  let documents ← e.lookUp s.store.active
  return documents.filterMap fun raw => (Document.ofJson raw).toOption.map (·.identity)

/-- Submits values to a document whether or not it is stored. -/
def submitTo (e : Engine) (s : EngineState) (d : Document) (values : Values) :
    Except SubmitError SubmissionReport × EngineState :=
  let (outcome, calls) := Submission.submit e.config e.sinks d values
  (outcome, { s with calls := s.calls ++ calls })

def submit (e : Engine) (s : EngineState) (request : SubmitRequest) :
    Except SubmitError SubmissionReport × EngineState :=
  match e.load s request.slug with
  | .error fault => (.error fault, s)
  | .ok d => e.submitTo s d request.values

/-- What a submitter is told of an outcome. Failures of collaborators are kept from submitters. -/
def respond : Except SubmitError SubmissionReport → SubmitResponse
  | .ok _ => .accepted true
  | .error (.invalid found) => .rejected false found.errors
  | .error fault => .failed fault.message

def submitRequest (e : Engine) (s : EngineState) (request : SubmitRequest) :
    SubmitResponse × EngineState :=
  let (outcome, s) := e.submit s request
  (respond outcome, s)

def submitText (e : Engine) (s : EngineState) (body : String) : String × EngineState :=
  match SubmitRequest.read body with
  | .error message => (errorBody ("invalid request: " ++ message), s)
  | .ok request =>
    let (response, s) := e.submitRequest s request
    (response.toJson.print, s)

def draft (e : Engine) (s : EngineState) (request : String) :
    Except DraftError Draft × EngineState :=
  if Text.allBlank request then (.error .emptyRequest, s)
  else
    let s := { s with prompts := s.prompts ++ [Draft.prompt request] }
    match e.completion with
    | .error fault => (.error (.generator fault.message), s)
    | .ok raw => (Draft.read raw, s)

def generateRequest (e : Engine) (s : EngineState) (request : GenerateRequest) :
    GenerateResponse × EngineState :=
  match e.draft s request.input with
  | (.ok draft, s) => (.generated draft, s)
  | (.error fault, s) => (.failed fault.message, s)

def generateText (e : Engine) (s : EngineState) (body : String) : String × EngineState :=
  match GenerateRequest.read body with
  | .error message => (errorBody ("invalid request: " ++ message), s)
  | .ok request =>
    let (response, s) := e.generateRequest s request
    (response.toJson.print, s)

end Engine

/-- Everything that can be asked of an engine. -/
inductive Operation where
  | insert (status : String) (raw : Json)
  | submit (request : SubmitRequest)
  | submitRequest (request : SubmitRequest)
  | submitText (body : String)
  | submitTo (document : Document) (values : Values)
  | load (slug : String)
  | draft (request : String)
  | generateRequest (request : GenerateRequest)
  | generateText (body : String)
  | catalog

inductive Reply where
  | none
  | report (outcome : Except SubmitError SubmissionReport)
  | submitted (response : SubmitResponse)
  | body (text : String)
  | document (outcome : Except SubmitError Document)
  | draft (outcome : Except DraftError Draft)
  | generated (response : GenerateResponse)
  | catalog (outcome : Except CollaboratorError (List Meta))

namespace Engine

def step (e : Engine) (s : EngineState) : Operation → Reply × EngineState
  | .insert status raw => (.none, insert s status raw)
  | .submit request => (e.submit s request).map .report id
  | .submitRequest request => (e.submitRequest s request).map .submitted id
  | .submitText body => (e.submitText s body).map .body id
  | .submitTo d values => (e.submitTo s d values).map .report id
  | .load slug => (.document (e.load s slug), s)
  | .draft request => (e.draft s request).map .draft id
  | .generateRequest request => (e.generateRequest s request).map .generated id
  | .generateText body => (e.generateText s body).map .body id
  | .catalog => (.catalog (e.catalog s), s)

/-- The replies to operations in order, each with the state behind it. -/
def run (e : Engine) (s : EngineState) : List Operation → List (Reply × EngineState)
  | [] => []
  | op :: rest =>
    let (reply, s) := e.step s op
    (reply, s) :: e.run s rest

end Engine

end AppDef
