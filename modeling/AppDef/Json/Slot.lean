import AppDef.Json.Shape

namespace AppDef.Json

/-- A member of a record and how it is taken into the record. -/
structure Slot (α : Type) where
  name : String
  set : Json → α → Except ShapeError α

def Slot.of {α β : Type} (name : String) (decode : Decoder β) (put : β → α → α) : Slot α where
  name
  set v a := (decode v).map fun b => put b a

/-- Whether a value was decoded where it stands, or was set aside before its shape was known. -/
inductive Source where
  | direct
  | kept
  deriving DecidableEq, Repr

def tooLong (source : Source) (length members : Nat) : ShapeError :=
  match source with
  | .direct => .listGoesOn length
  | .kept => .keptListGoesOn length members

/-- A member that the record does not know is passed over. -/
def setMember {α : Type} (slots : List (Slot α)) (a : α) (m : String × Json) :
    Except ShapeError α :=
  match slots.find? (·.name == m.1) with
  | some slot => slot.set m.2 a
  | none => .ok a

def setItem {α : Type} (a : α) (m : Slot α × Json) : Except ShapeError α :=
  m.1.set m.2 a

def decodeMembersInto {α : Type} (slots : List (Slot α)) (start : α)
    (members : List (String × Json)) : Except ShapeError α :=
  members.foldlM (setMember slots) start

/-- A record that starts out as `start`, so that any of its members may be left out. -/
def decodeRecord {α : Type} (source : Source) (name : String) (slots : List (Slot α)) (start : α) :
    Decoder α
  | .object members => decodeMembersInto slots start members
  | .array items => do
    let a ← (slots.zip items).foldlM setItem start
    if slots.length < items.length then .error (tooLong source items.length slots.length)
    else .ok a
  | v => mismatch v (.record name)

/-- Whether a member is given, by its name in an object or by its place in a list. -/
def isGiven {α : Type} (slots : List (Slot α)) (name : String) : Json → Bool
  | .object members => (members.lookup name).isSome
  | .array items => (slots.findIdx? (·.name == name)).any (· < items.length)
  | _ => false

/-- A record that some of its members are required of. -/
def decodeStrict {α : Type} (source : Source) (name : String) (slots : List (Slot α))
    (required : List String) (start : α) : Decoder α := fun v => do
  let a ← decodeRecord source name slots start v
  match required.find? fun member => !isGiven slots member v with
  | some member => .error (.missing member)
  | none => return a

end AppDef.Json
