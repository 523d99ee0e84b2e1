import AppDef.Json.Display
import AppDef.Number.Reading

namespace AppDef.Template

open AppDef.Number (display)

/-- The number that a value is or that its text writes. -/
def numberOf? : Json → Option Float
  | .number n => some n.toFloat
  | .text s => AppDef.Number.read? (Text.trimmed s)
  | _ => none

/-- A comma before every group of three characters from the end. -/
def grouped : List Char → List Char
  | [] => []
  | c :: cs => if cs.length % 3 = 0 && !cs.isEmpty then c :: ',' :: grouped cs else c :: grouped cs

/-- Two decimal places and groups of thousands. -/
def currency (x : Float) : String :=
  let rounded := (AppDef.Number.fixed 2 x.abs).toList
  let whole := rounded.takeWhile (· != '.')
  let cents :=
    match rounded.dropWhile (· != '.') with
    | _ :: cents => cents
    | [] => ['0', '0']
  String.ofList ((if x < 0 then ['-'] else []) ++ grouped whole ++ '.' :: cents)

/-- Hundredths, rounded to two places, a half away from zero. -/
def percent (x : Float) : String :=
  display ((x * 10000).round / 100) ++ "%"

/-- More decimal places than this cannot be asked for. -/
def mostPlaces : Nat := 65535

end AppDef.Template
