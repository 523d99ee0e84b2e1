import AppDef.Json.Print
import AppDef.Text.Blank

namespace AppDef.Json

/-- Numbers in their display form, texts as they are, lists and objects as JSON. -/
def display : Json → String
  | .null => ""
  | .text s => s
  | .bool b => toString b
  | .number n => AppDef.Number.display n.toFloat
  | v => v.print

def isBlank : Json → Bool
  | .null => true
  | .text s => Text.allBlank s
  | .array items => items.isEmpty
  | _ => false

/-- Nothing was given, or only a blank value. -/
def unanswered (value? : Option Json) : Bool :=
  value?.all isBlank

end AppDef.Json
