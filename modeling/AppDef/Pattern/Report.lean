import AppDef.Pattern.Basic

namespace AppDef.Pattern

/-- The lines of a source; an empty line at its end does not count. -/
def linesOf (source : List Char) : List (List Char) :=
  let lines := source.splitOn '\n'
  let lines := if lines.getLast?.any List.isEmpty then lines.dropLast else lines
  lines.map fun line => if line.getLast? == some '\r' then line.dropLast else line

def spaces (n : Nat) : String :=
  String.ofList (List.replicate n ' ')

def digitsOf (n : Nat) : List Char :=
  Nat.toDigits 10 n

/-- The width of line numbers, zero for a source of one line. -/
def numberWidth (source : List Char) : Nat :=
  let count := (linesOf source).length + if source.getLast? == some '\n' then 1 else 0
  if count ≤ 1 then 0 else (digitsOf count).length

/-- Marks under the spans of one line, from `column` on. -/
def marks (column : Nat) : List Span → String
  | [] => ""
  | span :: spans =>
    let gap := span.start.column - 1 - column
    let width := max 1 (span.stop.column - span.start.column)
    spaces gap ++ String.ofList (List.replicate width '^') ++ marks (column + gap + width) spans

def isOneLine (span : Span) : Bool :=
  span.start.line == span.stop.line

def precedes (a b : Span) : Bool :=
  a.start.line < b.start.line || (a.start.line == b.start.line && a.start.column ≤ b.start.column)

/-- The fault and the part that it repeats, in the order of the source. -/
def SyntaxError.spans (e : SyntaxError) : List Span :=
  match e.earlier? with
  | none => [e.span]
  | some o => if precedes e.span o then [e.span, o] else [o, e.span]

def noted (source : List Char) (spans : List Span) : String :=
  let width := numberWidth source
  let padding := if width = 0 then 4 else width + 2
  String.join ((linesOf source).zipIdx.map fun (line, i) =>
    let number := digitsOf (i + 1)
    let start :=
      if width = 0 then spaces 4
      else spaces (width - number.length) ++ String.ofList number ++ ": "
    let here := spans.filter fun s => isOneLine s && s.start.line == i + 1
    start ++ String.ofList line ++ "\n" ++
      if here.isEmpty then "" else spaces padding ++ marks 0 here ++ "\n")

/-- What is said about a pattern that is malformed: its source with marks under the fault. In a
source of several lines the lines are numbered. -/
def SyntaxError.message (source : String) (e : SyntaxError) : String :=
  let s := source.toList
  let spans := e.spans
  if s.contains '\n' then
    let divider := String.ofList (List.replicate 79 '~') ++ "\n"
    let across := spans.filter fun s => !isOneLine s
    let notes := across.map fun s =>
      s!"on line {s.start.line} (column {s.start.column}) through line {s.stop.line} (column {s.stop.column - 1})"
    "regex parse error:\n" ++ divider ++ noted s spans ++ divider ++
      (if notes.isEmpty then "" else "\n".intercalate notes ++ "\n") ++
      "error: " ++ e.fault.message
  else "regex parse error:\n" ++ noted s spans ++ "error: " ++ e.fault.message

end AppDef.Pattern
