import AppDef.Json.Scan

namespace AppDef.Json.Read

/-- What stands before the next item or member. -/
inductive Next where
  | item (rest : List Char)
  | close (rest : List Char)

/-- Before an item: a comma, unless it is the first one. `s` is left at the closing bracket. -/
def nextItem (first : Bool) (s : List Char) : Except Failure Next :=
  match skipSpace s with
  | [] => failHere .endInList []
  | ']' :: r => .ok (.close (']' :: r))
  | ',' :: r =>
    if first then .ok (.item (',' :: r))
    else
      match skipSpace r with
      | [] => failHere .endInValue []
      | ']' :: r => failNext .trailingComma (']' :: r)
      | r => .ok (.item r)
  | r => if first then .ok (.item r) else failNext .expectedItemEnd r

/-- Before a member: its opening quote is taken. -/
def nextMember (first : Bool) (s : List Char) : Except Failure Next :=
  match skipSpace s with
  | [] => failHere .endInObject []
  | '\x7d' :: r => .ok (.close ('\x7d' :: r))
  | ',' :: r =>
    if first then failNext .keyNotText (',' :: r)
    else
      match skipSpace r with
      | [] => failHere .endInValue []
      | '"' :: r => .ok (.item r)
      | '\x7d' :: r => failNext .trailingComma ('\x7d' :: r)
      | r => failNext .keyNotText r
  | '"' :: r => if first then .ok (.item r) else failNext .expectedMemberEnd ('"' :: r)
  | r => if first then failNext .keyNotText r else failNext .expectedMemberEnd r

def closeList (s : List Char) : Except Failure (List Char) :=
  match skipSpace s with
  | [] => failHere .endInList []
  | ']' :: r => .ok r
  | ',' :: r =>
    match skipSpace r with
    | ']' :: r => failNext .trailingComma (']' :: r)
    | r => failNext .trailingCharacters r
  | r => failNext .trailingCharacters r

def closeObject (s : List Char) : Except Failure (List Char) :=
  match skipSpace s with
  | [] => failHere .endInObject []
  | '\x7d' :: r => .ok r
  | ',' :: r => failNext .trailingComma (',' :: r)
  | r => failNext .trailingCharacters r

def colon (s : List Char) : Except Failure (List Char) :=
  match skipSpace s with
  | [] => failHere .endInObject []
  | ':' :: r => .ok r
  | r => failNext .expectedColon r

mutual

/-- A value; `depth` is how many brackets may still open, one more than may be open at once. -/
def value : (fuel depth : Nat) → Reader Json
  | 0, _, s => failHere .endInValue s
  | fuel + 1, depth, s =>
    match skipSpace s with
    | [] => failHere .endInValue []
    | 'n' :: r => (word ['u', 'l', 'l'] r).map fun (_, r) => (.null, r)
    | 't' :: r => (word ['r', 'u', 'e'] r).map fun (_, r) => (.bool true, r)
    | 'f' :: r => (word ['a', 'l', 's', 'e'] r).map fun (_, r) => (.bool false, r)
    | '-' :: r => (number true r).map fun (n, r) => (.number n, r)
    | '"' :: r => (quotedText r).map fun (t, r) => (.text t, r)
    | '[' :: r =>
      if depth ≤ 1 then failNext .tooDeep ('[' :: r)
      else do
        let (vs, r) ← items fuel (depth - 1) true r
        return (.array vs, ← closeList r)
    | '\x7b' :: r =>
      if depth ≤ 1 then failNext .tooDeep ('\x7b' :: r)
      else do
        let (ms, r) ← members fuel (depth - 1) true r
        return (.object (Members.ofList ms), ← closeObject r)
    | c :: r =>
      if Text.isDigit c then (number false (c :: r)).map fun (n, r) => (.number n, r)
      else failNext .expectedValue (c :: r)

def items : (fuel depth : Nat) → (first : Bool) → Reader (List Json)
  | 0, _, _, s => failHere .endInValue s
  | fuel + 1, depth, first, s => do
    match ← nextItem first s with
    | .close r => return ([], r)
    | .item r =>
      let (v, r) ← value fuel depth r
      let (vs, r) ← items fuel depth false r
      return (v :: vs, r)

def members : (fuel depth : Nat) → (first : Bool) → Reader (List (String × Json))
  | 0, _, _, s => failHere .endInValue s
  | fuel + 1, depth, first, s => do
    match ← nextMember first s with
    | .close r => return ([], r)
    | .item r =>
      let (key, r) ← quotedText r
      let r ← colon r
      let (v, r) ← value fuel depth r
      let (ms, r) ← members fuel depth false r
      return ((key, v) :: ms, r)

end

/-- Brackets that may be open at once, and one more. -/
def depthLimit : Nat := 128

/-- Each step of a reading takes a character or opens a bracket, so this much fuel is never used up. -/
def enough (s : List Char) : Nat :=
  2 * s.length + 2

/-- Nothing but space may follow what was read. -/
def finish {α : Type} (read : α × List Char) : Except Failure α :=
  match skipSpace read.2 with
  | [] => .ok read.1
  | r => failNext .trailingCharacters r

end Read

/-- A member that appears twice keeps its first place and its last value. -/
def parse (text : String) : Except Failure Json := do
  let s := text.toList
  Read.finish (← Read.value (Read.enough s) Read.depthLimit s)

/-- The value that a text writes, or the message about the first fault. -/
def read (text : String) : Except String Json :=
  (parse text).mapError (·.message text.toList)

end AppDef.Json
