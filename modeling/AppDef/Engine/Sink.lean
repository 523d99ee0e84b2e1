import AppDef.Contact
import AppDef.Environment

namespace AppDef

inductive CollaboratorError where
  | unavailable (name : String)
  | rejected (reason : String)
  | timedOut (milliseconds : Nat)
  | transport (reason : String)
  | panicked (reason : String)
  deriving DecidableEq, Repr

def CollaboratorError.message : CollaboratorError → String
  | .unavailable name => name ++ " is unavailable"
  | .rejected reason => "request rejected: " ++ reason
  | .timedOut milliseconds => s!"timed out after {milliseconds}ms"
  | .transport reason => "transport error: " ++ reason
  | .panicked reason => "collaborator panicked: " ++ reason

/-- How a collaborator treats what it is given. -/
inductive Sink (α : Type) where
  | recording
  /-- Takes everything and keeps nothing. -/
  | passing
  | failing (error : CollaboratorError)
  /-- Never answers. -/
  | stalling
  /-- Breaks off, mostly with a reason. -/
  | breaking (reason : α → Option String)

namespace Sink

variable {α : Type}

/-- What a call comes to within `limit` milliseconds. -/
def call (limit : Nat) (sink : Sink α) (request : α) : Except CollaboratorError Unit :=
  match sink with
  | .recording | .passing => .ok ()
  | .failing e => .error e
  | .stalling => .error (.timedOut limit)
  | .breaking reason => .error (.panicked ((reason request).getD "unknown panic"))

/-- What the sink has kept of the requests it was given. -/
def kept (sink : Sink α) (requests : List α) : List α :=
  match sink with
  | .recording => requests
  | _ => []

end Sink

/-- A contact is enrolled in a workflow by its email address. -/
structure Enrollment where
  workflow : String
  email : String
  deriving DecidableEq, Repr, Inhabited

/-- What is recorded of every accepted submission. -/
structure ConversionEvent where
  name : String
  metadata : Values
  deriving BEq, Inhabited

structure Sinks where
  contacts : Sink Contact
  workflows : Sink Enrollment
  events : Sink ConversionEvent

end AppDef
