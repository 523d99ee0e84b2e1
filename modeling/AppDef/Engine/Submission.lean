import AppDef.Document.Check
import AppDef.Engine.Config
import AppDef.Engine.Sink
import AppDef.Validation

namespace AppDef

inductive Effect where
  | contact (contact : Contact)
  | workflow (enrollment : Enrollment)
  | analytics (event : ConversionEvent)

namespace Effect

def name : Effect → String
  | .contact _ => "contact"
  | .workflow _ => "workflow"
  | .analytics _ => "analytics"

def contact? : Effect → Option Contact
  | .contact c => some c
  | _ => none

def enrollment? : Effect → Option Enrollment
  | .workflow e => some e
  | _ => none

def event? : Effect → Option ConversionEvent
  | .analytics e => some e
  | _ => none

/-- What becomes of an effect within `limit` milliseconds. -/
def run (limit : Nat) (sinks : Sinks) : Effect → Except CollaboratorError Unit
  | .contact c => sinks.contacts.call limit c
  | .workflow e => sinks.workflows.call limit e
  | .analytics e => sinks.events.call limit e

end Effect

structure EffectFailure where
  effect : String
  error : String
  deriving DecidableEq, Repr

/-- What an operator is told of an accepted submission. -/
structure SubmissionReport where
  contact : Option Contact
  failures : List EffectFailure

def SubmissionReport.toJson (r : SubmissionReport) : Json :=
  .object (List.flatten [
    [("accepted", .bool true)],
    r.contact.toList.map fun c => ("contact", c.toJson),
    [("failures", .array (r.failures.map fun f =>
      .object [("effect", .text f.effect), ("error", .text f.error)]))]])

inductive SubmitError where
  | invalid (found : Validation)
  | notFound (slug : String)
  | store (error : CollaboratorError)
  | schema (error : SchemaError)

def SubmitError.message : SubmitError → String
  | .invalid found =>
    "submission rejected: invalid fields " ++ ", ".intercalate found.failingFields
  | .notFound slug => "app '" ++ slug ++ "' not found"
  | .store e => "document store failed: " ++ e.message
  | .schema e => "stored document is invalid: " ++ e.message

namespace Document

def contact? (d : Document) (config : EngineConfig) (values : Values) : Option Contact :=
  d.crm.map fun crm => Contact.build crm values config.defaultSource

/-- A contact with an email address is enrolled in the workflow of its document. -/
def enrollment? (d : Document) (contact? : Option Contact) : Option Enrollment := do
  let workflow ← (← d.crm).workflowId.filter (!Text.allBlank ·)
  let email ← (← contact?).email
  return { workflow, email }

def event (d : Document) (config : EngineConfig) (values : Values) : ConversionEvent :=
  ⟨config.eventName d.slug, values⟩

/-- The effects of values that passed the check, in the order in which they are begun. -/
def effects (d : Document) (config : EngineConfig) (values : Values) : List Effect :=
  let contact? := d.contact? config values
  contact?.toList.map .contact ++ (d.enrollment? contact?).toList.map .workflow ++
    [.analytics (d.event config values)]

end Document

namespace Submission

def failure? (config : EngineConfig) (sinks : Sinks) (effect : Effect) : Option EffectFailure :=
  match effect.run config.timeout sinks with
  | .ok () => none
  | .error e => some ⟨effect.name, e.message⟩

def report (config : EngineConfig) (sinks : Sinks) (d : Document) (values : Values) :
    SubmissionReport where
  contact := d.contact? config values
  failures := (d.effects config values).filterMap (failure? config sinks)

/-- The report of an accepted submission and the calls that were made for it. -/
def submit (config : EngineConfig) (sinks : Sinks) (d : Document) (values : Values) :
    Except SubmitError SubmissionReport × List Effect :=
  let found := d.validate values
  if found.valid then (.ok (report config sinks d values), d.effects config values)
  else (.error (.invalid found), [])

end Submission

end AppDef
