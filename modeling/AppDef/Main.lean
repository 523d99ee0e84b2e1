import AppDef.Console.Basic

namespace AppDef

/-- Why the system refuses, in its words and with its number. -/
def systemReason : IO.Error → String
  | .noFileOrDirectory .. => "No such file or directory (os error 2)"
  | .permissionDenied .. => "Permission denied (os error 13)"
  | .inappropriateType .. => "Is a directory (os error 21)"
  | e => toString e

/-- The text of a file, or why it cannot be read. -/
def readText (path : String) : IO (Except String String) := do
  try
    let bytes ← IO.FS.readBinFile path
    match String.fromUTF8? bytes with
    | some text => return .ok text
    | none => return .error "stream did not contain valid UTF-8"
  catch e => return .error (systemReason e)

/-- The files that any parameter may name, read beforehand. -/
def readNamed (words : List String) : IO (List (String × Except String String)) :=
  words.mapM fun path => do return (path, ← readText path)

/-- Every path that a command names. -/
def Command.paths : Command → List String
  | .check doc => [doc]
  | .render doc values _ => doc :: values.toList
  | .eval _ values _ => values.toList
  | .run doc values config _ => doc :: values.toList ++ config.toList
  | .submit doc values config => doc :: values :: config.toList
  | .prompt _ => []
  | .generate _ response => [response]

/-- Writes each chunk of a transcript to the stream it is for. -/
def emit (t : Transcript) : IO Unit := do
  for chunk in t do
    match chunk with
    | .out text => IO.print text
    | .err text => IO.eprint text
  (← IO.getStdout).flush

end AppDef

open AppDef in
def main (words : List String) : IO UInt32 := do
  let configPath ← IO.getEnv "APPDEF_CONFIG"
  let paths := ((Command.read words).toOption.map Command.paths).getD [] ++ configPath.toList
  let files ← readNamed paths
  let input ← IO.getStdin
  let mut lines : Array String := #[]
  let mut shown := 0
  let mut exit? : Option Nat := none
  while exit?.isNone do
    let surroundings : Surroundings := {
      file := fun path => (files.lookup path).getD (.error "No such file or directory (os error 2)")
      configPath
      lines := lines.toList }
    let ending := Console.execute surroundings words
    if ending.awaits then
      emit ((ending.transcript.drop shown).dropLast)
      shown := ending.transcript.length - 1
      let line ← input.getLine
      if line.isEmpty then
        emit (ending.transcript.drop shown)
        exit? := some ending.exit
      else lines := lines.push line
    else
      emit (ending.transcript.drop shown)
      exit? := some ending.exit
  return UInt32.ofNat (exit?.getD 0)
