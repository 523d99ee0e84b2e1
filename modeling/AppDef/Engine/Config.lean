import AppDef.Json.Record
import AppDef.Text.Blank

namespace AppDef

/-- How an engine is set up. Whatever a configuration leaves out has a default. -/
structure EngineConfig where
  /-- The source of contacts whose document names none. -/
  defaultSource : String
  /-- How long each effect of a submission may take, in milliseconds. -/
  timeout : Nat
  eventPrefix : String
  /-- The status under which documents are looked up. -/
  storeStatus : String
  deriving DecidableEq, Repr, Inhabited

namespace EngineConfig

def default : EngineConfig where
  defaultSource := "app-engine"
  timeout := 10000
  eventPrefix := "app_submission_"
  storeStatus := "active"

def shape : Json.Record where
  name := "EngineConfig"
  members := [("defaultSource", .text), ("sideEffectTimeoutMs", .unsigned), ("eventPrefix", .text),
    ("storeStatus", .text)]
  optional := [true, true, true, true]

def ofGiven : Json.Given → EngineConfig
  | [source, timeout, start, status] => {
      defaultSource := (source.bind Json.asText?).getD default.defaultSource
      timeout := (timeout.bind Json.asNat?).getD default.timeout
      eventPrefix := (start.bind Json.asText?).getD default.eventPrefix
      storeStatus := (status.bind Json.asText?).getD default.storeStatus }
  | _ => default

def decode : Json.Decoder EngineConfig := fun v =>
  (shape.decode v).map ofGiven

/-- The configuration in a text. A blank one has nothing but defaults. -/
def read (text : String) : Except String EngineConfig :=
  if Text.allBlank text then .ok default
  else ((shape.read text).map ofGiven).mapError ("failed to parse config: " ++ ·)

def eventName (c : EngineConfig) (slug : String) : String :=
  c.eventPrefix ++ slug

def toJson (c : EngineConfig) : Json :=
  .object [("defaultSource", .text c.defaultSource), ("sideEffectTimeoutMs", .ofNat c.timeout),
    ("eventPrefix", .text c.eventPrefix), ("storeStatus", .text c.storeStatus)]

end EngineConfig

end AppDef
