import AppDef.Text.Blank
import AppDef.Text.Letters

namespace AppDef.Draft

open AppDef.Text

def fence : List Char := "```".toList

/-- The text on both sides of the first line end, if there is one. -/
def splitLine? (s : List Char) : Option (List Char × List Char) :=
  match s.dropWhile (· ≠ '\n') with
  | [] => none
  | _ :: rest => some (s.takeWhile (· ≠ '\n'), rest)

/-- What follows the language tag behind a fence. A first line that is no tag is kept. -/
def dropTag (s : List Char) : List Char :=
  match splitLine? s with
  | some (tag, body) => if (trim tag).all isAlphanumeric then body else s
  | none => s.dropWhile isAlphanumeric

def dropClosing (s : List Char) : List Char :=
  (fence.isSuffixOf? s).getD s

/-- The text without one surrounding fence and without the blanks around it. -/
def unfenced (raw : List Char) : List Char :=
  let s := trim raw
  match fence.isPrefixOf? s with
  | some rest => trim (dropClosing (trimEnd (dropTag rest)))
  | none => s

/-- The text in the code fence that a generator may have put around it. -/
def stripFence (raw : String) : String :=
  String.ofList (unfenced raw.toList)

end AppDef.Draft
