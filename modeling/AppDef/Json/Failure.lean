import AppDef.Json.Shape

namespace AppDef.Json

inductive Fault where
  | endInValue
  | endInList
  | endInObject
  | endInText
  | expectedColon
  | expectedItemEnd
  | expectedMemberEnd
  | expectedWord
  | expectedValue
  | badEscape
  | badNumber
  | numberTooLarge
  | controlCharacter
  | keyNotText
  | loneSurrogate
  | unfinishedSurrogate
  | trailingComma
  | trailingCharacters
  | tooDeep
  | shape (error : ShapeError)

def Fault.message : Fault → String
  | .endInValue => "EOF while parsing a value"
  | .endInList => "EOF while parsing a list"
  | .endInObject => "EOF while parsing an object"
  | .endInText => "EOF while parsing a string"
  | .expectedColon => "expected `:`"
  | .expectedItemEnd => "expected `,` or `]`"
  | .expectedMemberEnd => "expected `,` or `\x7d`"
  | .expectedWord => "expected ident"
  | .expectedValue => "expected value"
  | .badEscape => "invalid escape"
  | .badNumber => "invalid number"
  | .numberTooLarge => "number out of range"
  | .controlCharacter => "control character (\\u0000-\\u001F) found while parsing a string"
  | .keyNotText => "key must be a string"
  | .loneSurrogate => "lone leading surrogate in hex escape"
  | .unfinishedSurrogate => "unexpected end of hex escape"
  | .trailingComma => "trailing comma"
  | .trailingCharacters => "trailing characters"
  | .tooDeep => "recursion limit exceeded"
  | .shape error => error.message

/-- A fault, the text not read when it arose, and how many bytes of that text it lies behind. -/
structure Failure where
  fault : Fault
  rest : List Char
  ahead : Nat

/-- Lines count from one, columns count the bytes of the line that were read. -/
structure Position where
  line : Nat
  column : Nat
  deriving DecidableEq, Repr

def Position.start : Position := ⟨1, 0⟩

def Position.skip (p : Position) (c : Char) : Position :=
  if c = '\n' then ⟨p.line + 1, 0⟩ else ⟨p.line, p.column + c.utf8Size⟩

/-- The position `bytes` further on, which may lie inside a character. -/
def Position.advance (p : Position) : Nat → List Char → Position
  | 0, _ => p
  | _, [] => p
  | bytes, c :: cs =>
    if c.utf8Size ≤ bytes then (p.skip c).advance (bytes - c.utf8Size) cs
    else ⟨p.line, p.column + bytes⟩

def Failure.position (f : Failure) (source : List Char) : Position :=
  let read := source.take (source.length - f.rest.length)
  (read.foldl Position.skip Position.start).advance f.ahead f.rest

def Failure.message (f : Failure) (source : List Char) : String :=
  let p := f.position source
  s!"{f.fault.message} at line {p.line} column {p.column}"

/-- A reader takes a part off the front of the text. -/
abbrev Reader (α : Type) := List Char → Except Failure (α × List Char)

/-- A fault at the end of what was read. -/
def failHere {α : Type} (fault : Fault) (rest : List Char) : Except Failure α :=
  .error ⟨fault, rest, 0⟩

/-- A fault at the next byte. -/
def failNext {α : Type} (fault : Fault) (rest : List Char) : Except Failure α :=
  .error ⟨fault, rest, 1⟩

def isSpace (c : Char) : Bool :=
  c == ' ' || c == '\n' || c == '\t' || c == '\r'

def skipSpace (s : List Char) : List Char :=
  s.dropWhile isSpace

end AppDef.Json
