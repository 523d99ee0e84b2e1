import AppDef.Environment
import AppDef.Json.Display
import AppDef.Text.Letters

namespace AppDef.Template.Placeholder

open AppDef.Text

def isStart (c : Char) : Bool :=
  isLetter c || c == '_'

def isPart (c : Char) : Bool :=
  isAlphanumeric c || c == '_'

/-- The name of a placeholder that a text starts with, and what follows it. -/
def read? : List Char → Option (String × List Char)
  | '\x7b' :: '\x7b' :: s =>
    let s := s.dropWhile isBlank
    if !s.head?.any isStart then none
    else
      match (s.dropWhile isPart).dropWhile isBlank with
      | '\x7d' :: '\x7d' :: rest => some (String.ofList (s.takeWhile isPart), rest)
      | _ => none
  | _ => none

def valueOf (env : Environment) (name : String) : String :=
  ((env.get? name).map Json.display).getD ""

/-- The text behind the first `skip` characters, with its placeholders replaced. -/
def replaceFrom (env : Environment) : (skip : Nat) → List Char → List Char
  | _, [] => []
  | skip + 1, _ :: s => replaceFrom env skip s
  | 0, c :: s =>
    match read? (c :: s) with
    | some (name, rest) =>
      (valueOf env name).toList ++ replaceFrom env (s.length - rest.length) s
    | none => c :: replaceFrom env 0 s

/-- Plain substitution: each name between double braces gives way to the display of its value, and
nothing else is changed. -/
def replace (template : String) (env : Environment) : String :=
  String.ofList (replaceFrom env 0 template.toList)

end AppDef.Template.Placeholder
