import AppDef.Json.Display
import AppDef.Number.Reading
import AppDef.Text.Letters

namespace AppDef

/-- The values of expressions. -/
inductive Scalar where
  | missing
  | bool (value : Bool)
  | number (value : Float)
  | text (value : String)
  deriving Inhabited

namespace Scalar

/-- Lists and objects are read as their JSON text. -/
def ofJson : Json → Scalar
  | .null => .missing
  | .bool b => .bool b
  | .number n => .number n.toFloat
  | .text s => .text s
  | v => .text v.print

/-- The number arithmetic takes: a blank text is zero, a text of no finite number is none. -/
def asNumber? : Scalar → Option Float
  | .missing => none
  | .bool b => some (if b then 1 else 0)
  | .number x => some x
  | .text s =>
    let t := Text.trimmed s
    if t.isEmpty then some 0 else (Number.read? t).filter (·.isFinite)

/-- The number a comparison takes: only numbers and texts that write one. -/
def comparable? : Scalar → Option Float
  | .number x => some x
  | .text s => Number.read? (Text.trimmed s)
  | _ => none

def truthy : Scalar → Bool
  | .missing => false
  | .bool b => b
  | .number x => x != 0 && !x.isNaN
  | .text s => !s.isEmpty && !Text.sameLetters s "false"

def display : Scalar → String
  | .missing => ""
  | .bool b => toString b
  | .number x => Number.display x
  | .text s => s

def isMissing : Scalar → Bool
  | .missing => true
  | _ => false

/-- Numbers are compared as numbers and all else by what is displayed; a missing value is not compared. -/
def order? (a b : Scalar) : Option Ordering :=
  if a.isMissing || b.isMissing then none
  else
    match a.comparable?, b.comparable? with
    | some x, some y => Number.compare? x y
    | _, _ => some (compare a.display b.display)

def equal? (a b : Scalar) : Option Bool :=
  if a.isMissing || b.isMissing then none
  else
    match a.comparable?, b.comparable? with
    | some x, some y => some (x == y)
    | _, _ => some (a.display == b.display)

end Scalar

end AppDef
