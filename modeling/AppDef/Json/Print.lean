import AppDef.Json.Basic
import AppDef.Number.Notation

namespace AppDef.Json

open AppDef.Number (compact)

def hexDigit (n : Nat) : Char :=
  (Nat.digitChar n)

/-- How a character stands between quotes. Only quote, backslash and control characters are escaped. -/
def escaped (c : Char) : List Char :=
  if c = '"' then ['\\', '"']
  else if c = '\\' then ['\\', '\\']
  else if c = '\n' then ['\\', 'n']
  else if c = '\r' then ['\\', 'r']
  else if c = '\t' then ['\\', 't']
  else if c.toNat = 8 then ['\\', 'b']
  else if c.toNat = 12 then ['\\', 'f']
  else if c.toNat < 32 then ['\\', 'u', '0', '0', hexDigit (c.toNat / 16), hexDigit (c.toNat % 16)]
  else [c]

def quoted (s : String) : String :=
  String.ofList ('"' :: s.toList.flatMap escaped ++ ['"'])

def Number.print : Number → String
  | .whole i => toString i
  | .float x => compact x

mutual

/-- The text of a value on one line, without blanks. -/
def print : Json → String
  | .null => "null"
  | .bool b => toString b
  | .number n => n.print
  | .text s => quoted s
  | .array [] => "[]"
  | .array (v :: vs) => "[" ++ print v ++ printItems vs ++ "]"
  | .object [] => "\x7b\x7d"
  | .object ((k, v) :: ms) => "\x7b" ++ quoted k ++ ":" ++ print v ++ printMembers ms ++ "\x7d"

/-- Items behind a first one. -/
def printItems : List Json → String
  | [] => ""
  | v :: vs => "," ++ print v ++ printItems vs

def printMembers : List (String × Json) → String
  | [] => ""
  | (k, v) :: ms => "," ++ quoted k ++ ":" ++ print v ++ printMembers ms

end

def newline (depth : Nat) : String :=
  String.ofList ('\n' :: List.replicate (2 * depth) ' ')

mutual

/-- The indented text of a value whose brackets stand `depth` levels in. -/
def indent (depth : Nat) : Json → String
  | .null => "null"
  | .bool b => toString b
  | .number n => n.print
  | .text s => quoted s
  | .array [] => "[]"
  | .array (v :: vs) =>
    "[" ++ newline (depth + 1) ++ indent (depth + 1) v ++ indentItems (depth + 1) vs ++
      newline depth ++ "]"
  | .object [] => "\x7b\x7d"
  | .object ((k, v) :: ms) =>
    "\x7b" ++ newline (depth + 1) ++ quoted k ++ ": " ++ indent (depth + 1) v ++
      indentMembers (depth + 1) ms ++ newline depth ++ "\x7d"

def indentItems (depth : Nat) : List Json → String
  | [] => ""
  | v :: vs => "," ++ newline depth ++ indent depth v ++ indentItems depth vs

def indentMembers (depth : Nat) : List (String × Json) → String
  | [] => ""
  | (k, v) :: ms =>
    "," ++ newline depth ++ quoted k ++ ": " ++ indent depth v ++ indentMembers depth ms

end

/-- The text of a value, indented by two blanks a level. -/
def pretty (value : Json) : String :=
  indent 0 value

end AppDef.Json
