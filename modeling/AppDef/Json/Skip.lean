import AppDef.Json.Parse

namespace AppDef.Json.Read

open AppDef.Text

def skipEscape : List Char → Except Failure (List Char)
  | [] => failHere .endInText []
  | 'u' :: s => (hexQuad s).map (·.2)
  | c :: s => if (simpleEscape? c).isSome then .ok s else failNext .badEscape (c :: s)

def skipText : (fuel : Nat) → List Char → Except Failure (List Char)
  | 0, s => failHere .endInText s
  | _, [] => failHere .endInText []
  | fuel + 1, c :: s =>
    if c = '"' then .ok s
    else if c = '\\' then do skipText fuel (← skipEscape s)
    else if c.toNat < 32 then failHere .controlCharacter (c :: s)
    else skipText fuel s

def skipExponent (s : List Char) : Except Failure (List Char) :=
  let s :=
    match s with
    | '+' :: r => r
    | '-' :: r => r
    | r => r
  match s with
  | [] => failHere .badNumber []
  | c :: r => if isDigit c then .ok (r.dropWhile isDigit) else failNext .badNumber (c :: r)

def skipNumberEnd : List Char → Except Failure (List Char)
  | c :: s => if isExponentMark c then skipExponent s else .ok (c :: s)
  | [] => .ok []

def skipFraction (s : List Char) : Except Failure (List Char) :=
  match s with
  | [] => failHere .badNumber []
  | c :: r => if isDigit c then skipNumberEnd (r.dropWhile isDigit) else failNext .badNumber (c :: r)

def skipNumber (s : List Char) : Except Failure (List Char) :=
  match s with
  | [] => failHere .badNumber []
  | '0' :: c :: r => if isDigit c then failNext .badNumber (c :: r) else afterWhole (c :: r)
  | c :: r => if isDigit c then afterWhole (r.dropWhile isDigit) else failNext .badNumber (c :: r)
where
  afterWhole : List Char → Except Failure (List Char)
    | '.' :: s => skipFraction s
    | s => skipNumberEnd s

inductive Bracket where
  | list
  | object

/-- The key of a member and its colon. -/
def skipKey (s : List Char) : Except Failure (List Char) := do
  match skipSpace s with
  | [] => failHere .endInObject []
  | '"' :: r => colon (← skipText (r.length + 1) r)
  | r => failNext .keyNotText r

mutual

/-- A value inside the brackets `stack`, and all that follows up to the last of them. -/
def skipValue : (fuel : Nat) → (stack : List Bracket) → List Char → Except Failure (List Char)
  | 0, _, s => failHere .endInValue s
  | fuel + 1, stack, s =>
    match skipSpace s with
    | [] => failHere .endInValue []
    | 'n' :: r => do skipOn fuel true stack (← word ['u', 'l', 'l'] r).2
    | 't' :: r => do skipOn fuel true stack (← word ['r', 'u', 'e'] r).2
    | 'f' :: r => do skipOn fuel true stack (← word ['a', 'l', 's', 'e'] r).2
    | '-' :: r => do skipOn fuel true stack (← skipNumber r)
    | '"' :: r => do skipOn fuel true stack (← skipText (r.length + 1) r)
    | '[' :: r => skipOn fuel false (.list :: stack) r
    | '\x7b' :: r => skipOn fuel false (.object :: stack) r
    | c :: r =>
      if isDigit c then do skipOn fuel true stack (← skipNumber (c :: r))
      else failNext .expectedValue (c :: r)

/-- What follows a value (`after`) or an opening bracket. -/
def skipOn : (fuel : Nat) → (after : Bool) → (stack : List Bracket) → List Char →
    Except Failure (List Char)
  | 0, _, _, s => failHere .endInValue s
  | _, _, [], s => .ok s
  | fuel + 1, after, bracket :: stack, s =>
    match bracket, skipSpace s with
    | .list, [] => failHere .endInList []
    | .object, [] => failHere .endInObject []
    | .list, ']' :: r => skipOn fuel true stack r
    | .object, '\x7d' :: r => skipOn fuel true stack r
    | _, c :: r =>
      if !after then skipEntry fuel bracket stack (c :: r)
      else if c = ',' then skipEntry fuel bracket stack r
      else
        match bracket with
        | .list => failNext .expectedItemEnd (c :: r)
        | .object => failNext .expectedMemberEnd (c :: r)

def skipEntry : (fuel : Nat) → Bracket → (stack : List Bracket) → List Char →
    Except Failure (List Char)
  | 0, _, _, s => failHere .endInValue s
  | fuel + 1, .list, stack, s => skipValue fuel (.list :: stack) s
  | fuel + 1, .object, stack, s => do skipValue fuel (.object :: stack) (← skipKey s)

end

/-- Passes over the value of a member that nobody asked for. Its brackets may nest without limit,
and its numbers may be of any size. -/
def skip (s : List Char) : Except Failure (List Char) :=
  skipValue (3 * s.length + 3) [] s

end AppDef.Json.Read
