import AppDef.Json.Print
import AppDef.Text.Quoted

namespace AppDef.Json

/-- What stands where another shape was expected. -/
inductive Found where
  | null
  | bool (value : Bool)
  | whole (value : Int)
  | float (value : Float)
  | text (value : String)
  | sequence
  | map

def Found.describe : Found → String
  | .null => "null"
  | .bool b => s!"boolean `{b}`"
  | .whole i => s!"integer `{i}`"
  | .float x => "floating point `" ++ AppDef.Number.compact x ++ "`"
  | .text s => "string " ++ Text.quoted s
  | .sequence => "sequence"
  | .map => "map"

def found : Json → Found
  | .null => .null
  | .bool b => .bool b
  | .number (.whole i) => .whole i
  | .number (.float x) => .float x
  | .text s => .text s
  | .array _ => .sequence
  | .object _ => .map

inductive Expected where
  | text
  | flag
  | sequence
  | map
  | unsigned
  | record (name : String)

def Expected.describe : Expected → String
  | .text => "a string"
  | .flag => "a boolean"
  | .sequence => "a sequence"
  | .map => "a map"
  | .unsigned => "u64"
  | .record name => "struct " ++ name

inductive ShapeError where
  | mismatch (found : Found) (expected : Expected)
  | outOfRange (value : Int)
  | missing (member : String)
  | duplicate (member : String)
  /-- A record written as a list that ends before a member without default. -/
  | listEnds (length : Nat) (name : String) (members : Nat)
  /-- A record written as a list of more than its members. -/
  | listGoesOn (length : Nat)
  /-- The same, in a value that was set aside before its shape was known. -/
  | keptListGoesOn (length members : Nat)
  | noVariant (name : String)

def ShapeError.message : ShapeError → String
  | .mismatch found expected =>
    "invalid type: " ++ found.describe ++ ", expected " ++ expected.describe
  | .outOfRange i => s!"invalid value: integer `{i}`, expected u64"
  | .missing member => "missing field `" ++ member ++ "`"
  | .duplicate member => "duplicate field `" ++ member ++ "`"
  | .listEnds length name members =>
    s!"invalid length {length}, expected struct {name} with {members} element" ++
      if members = 1 then "" else "s"
  | .listGoesOn length => s!"invalid length {length}, expected fewer elements in array"
  | .keptListGoesOn length members =>
    s!"invalid length {length}, expected {members} element" ++
      (if members = 1 then "" else "s") ++ " in sequence"
  | .noVariant name => s!"data did not match any variant of untagged enum {name}"

/-- A reading of one value. -/
abbrev Decoder (α : Type) := Json → Except ShapeError α

def mismatch {α : Type} (value : Json) (expected : Expected) : Except ShapeError α :=
  .error (.mismatch value.found expected)

def decodeText : Decoder String
  | .text s => .ok s
  | v => mismatch v .text

def decodeFlag : Decoder Bool
  | .bool b => .ok b
  | v => mismatch v .flag

def decodeUnsigned : Decoder Nat
  | .number (.whole i) => if i < 0 then .error (.outOfRange i) else .ok i.toNat
  | v => mismatch v .unsigned

def decodeMap : Decoder (List (String × Json))
  | .object members => .ok members
  | v => mismatch v .map

/-- A value that may be null. -/
def decodeOptional {α : Type} (decode : Decoder α) : Decoder (Option α)
  | .null => .ok none
  | v => (decode v).map some

def decodeList {α : Type} (decode : Decoder α) : Decoder (List α)
  | .array items => items.mapM decode
  | v => mismatch v .sequence

def decodeMembers {α : Type} (decode : Decoder α) : Decoder (List (String × α))
  | .object members => members.mapM fun (key, value) => do return (key, ← decode value)
  | v => mismatch v .map

end AppDef.Json
