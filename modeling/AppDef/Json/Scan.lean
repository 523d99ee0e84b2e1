import AppDef.Json.Failure
import AppDef.Text.Letters

namespace AppDef.Json.Read

open AppDef.Text

/-- The rest of a word whose first letter was read. -/
def word : List Char → Reader Unit
  | [], s => .ok ((), s)
  | _ :: _, [] => failHere .endInValue []
  | c :: cs, d :: s => if c = d then word cs s else failNext .expectedWord (d :: s)

def byteCount (s : List Char) : Nat :=
  s.foldr (fun c bytes => c.utf8Size + bytes) 0

/-- Four digits in base sixteen. Four bytes are taken also when one is no digit. -/
def hexQuad (s : List Char) : Except Failure (Nat × List Char) :=
  match s with
  | a :: b :: c :: d :: rest =>
    match hexValue? a, hexValue? b, hexValue? c, hexValue? d with
    | some a, some b, some c, some d => .ok (((a * 16 + b) * 16 + c) * 16 + d, rest)
    | _, _, _, _ => refuse
  | _ => refuse
where
  refuse := if byteCount s < 4 then failHere .endInText [] else .error ⟨.badEscape, s, 4⟩

def isHighSurrogate (n : Nat) : Bool :=
  0xD800 ≤ n && n ≤ 0xDBFF

def isLowSurrogate (n : Nat) : Bool :=
  0xDC00 ≤ n && n ≤ 0xDFFF

/-- The character of one escape by code unit, or of two that are a surrogate pair. -/
def unicodeEscape (s : List Char) : Except Failure (Char × List Char) := do
  let (first, rest) ← hexQuad s
  if isLowSurrogate first then failHere .loneSurrogate rest
  else if !isHighSurrogate first then return (Char.ofNat first, rest)
  else
    match rest with
    | [] => failHere .endInText []
    | '\\' :: [] => failHere .endInText []
    | '\\' :: 'u' :: rest =>
      let (second, rest) ← hexQuad rest
      if isLowSurrogate second then
        return (Char.ofNat (0x10000 + (first - 0xD800) * 0x400 + (second - 0xDC00)), rest)
      else failHere .loneSurrogate rest
    | '\\' :: rest => failNext .unfinishedSurrogate rest
    | rest => failNext .unfinishedSurrogate rest

/-- The letter behind a backslash and the character it stands for. -/
def simpleEscape? : Char → Option Char
  | '"' => some '"'
  | '\\' => some '\\'
  | '/' => some '/'
  | 'b' => some (Char.ofNat 8)
  | 'f' => some (Char.ofNat 12)
  | 'n' => some '\n'
  | 'r' => some '\r'
  | 't' => some '\t'
  | _ => none

def escape : List Char → Except Failure (Char × List Char)
  | [] => failHere .endInText []
  | 'u' :: s => unicodeEscape s
  | c :: s =>
    match simpleEscape? c with
    | some d => .ok (d, s)
    | none => failNext .badEscape (c :: s)

/-- Text up to its closing quote; `fuel` bounds its length. -/
def quotedChars : (fuel : Nat) → List Char → Except Failure (List Char × List Char)
  | 0, s => failHere .endInText s
  | _, [] => failHere .endInText []
  | fuel + 1, c :: s =>
    if c = '"' then .ok ([], s)
    else if c = '\\' then do
      let (d, s) ← escape s
      let (cs, s) ← quotedChars fuel s
      return (d :: cs, s)
    else if c.toNat < 32 then failNext .controlCharacter (c :: s)
    else do
      let (cs, s) ← quotedChars fuel s
      return (c :: cs, s)

/-- Text behind its opening quote. -/
def quotedText : Reader String := fun s => do
  let (cs, s) ← quotedChars (s.length + 1) s
  return (String.ofList cs, s)

def largestWhole : Nat := Nat.pow 2 64 - 1

/--
Digits are added to a significand as long as it keeps within 64 bits. Gives the significand, how many
digits were added, and the digits that were not.
-/
def takeSignificand : (significand added : Nat) → List Char → Nat × Nat × List Char
  | n, k, c :: s =>
    if isDigit c && 10 * n + (c.toNat - 48) ≤ largestWhole then
      takeSignificand (10 * n + (c.toNat - 48)) (k + 1) s
    else (n, k, c :: s)
  | n, k, [] => (n, k, [])

/-- `x / 10 ^ exponent` in steps of at most `10 ^ 308`. -/
def divideByPower : (steps : Nat) → Float → Nat → Float
  | 0, x, _ => x
  | steps + 1, x, exponent =>
    if exponent ≤ 308 then x / AppDef.Number.nearest false (Nat.pow 10 exponent) 1
    else if x == 0 then x
    else divideByPower steps (x / AppDef.Number.nearest false (Nat.pow 10 308) 1) (exponent - 308)

/-- The significand as a float, times or over a power of ten: two roundings, `none` when too large. -/
def scale? (significand : Nat) (exponent : Int) : Option Float :=
  let x := AppDef.Number.nearest false significand 1
  if exponent < 0 then some (divideByPower 4 x exponent.natAbs)
  else if exponent ≤ 308 then
    let y := x * AppDef.Number.nearest false (Nat.pow 10 exponent.natAbs) 1
    if y.isInf then none else some y
  else if x == 0 then some x
  else none

def scaled (negative : Bool) (significand : Nat) (exponent : Int) : Reader Number := fun s =>
  match scale? significand exponent with
  | some x => .ok (.float (if negative then -x else x), s)
  | none => failHere .numberTooLarge s

def largestExponent : Nat := Nat.pow 2 31 - 1

/--
The digits of an exponent behind its first one. Past `largestExponent` a number is zero or too
large at once.
-/
def exponentDigits (negative : Bool) (significand : Nat) (start : Int) (down : Bool) :
    (read : Nat) → Reader Number
  | n, c :: s =>
    if isDigit c then
      let m := 10 * n + (c.toNat - 48)
      if m ≤ largestExponent then exponentDigits negative significand start down m s
      else if significand ≠ 0 && !down then failHere .numberTooLarge s
      else .ok (.float (if negative then -0.0 else 0.0), s.dropWhile isDigit)
    else scaled negative significand (if down then start - n else start + n) (c :: s)
  | n, [] => scaled negative significand (if down then start - n else start + n) []

/-- The exponent behind its letter. -/
def exponentPart (negative : Bool) (significand : Nat) (start : Int) : Reader Number := fun s =>
  let (down, s) :=
    match s with
    | '+' :: r => (false, r)
    | '-' :: r => (true, r)
    | r => (false, r)
  match s with
  | [] => failHere .endInValue []
  | c :: r =>
    if isDigit c then exponentDigits negative significand start down (c.toNat - 48) r
    else failNext .badNumber (c :: r)

def isExponentMark (c : Char) : Bool :=
  c == 'e' || c == 'E'

/-- What may follow the last digit before an exponent. -/
def numberEnd (negative : Bool) (significand : Nat) (exponent : Int) : Reader Number
  | c :: s =>
    if isExponentMark c then exponentPart negative significand exponent s
    else scaled negative significand exponent (c :: s)
  | [] => scaled negative significand exponent []

/-- The fraction behind its point. Digits past 64 bits are read and have no effect. -/
def fractionPart (negative : Bool) (significand : Nat) (exponent : Int) : Reader Number := fun s =>
  let (significand, added, rest) := takeSignificand significand 0 s
  match rest with
  | c :: _ =>
    if isDigit c then numberEnd negative significand (exponent - added) (rest.dropWhile isDigit)
    else if added = 0 then failNext .badNumber rest
    else numberEnd negative significand (exponent - added) rest
  | [] => if added = 0 then failHere .endInValue [] else numberEnd negative significand (exponent - added) []

/-- A whole number of more than 64 bits: each digit more is a power of ten. -/
def longNumber (negative : Bool) (significand : Nat) (s : List Char) :
    Except Failure (Number × List Char) :=
  let exponent := (s.takeWhile isDigit).length
  match s.dropWhile isDigit with
  | '.' :: r => fractionPart negative significand exponent r
  | r => numberEnd negative significand exponent r

def wholeNumber (negative : Bool) (significand : Nat) : Number :=
  if negative then
    if significand = 0 || Nat.pow 2 63 < significand then
      .float (-(AppDef.Number.nearest false significand 1))
    else .whole (-significand)
  else .whole significand

/-- A number behind its sign. -/
def number (negative : Bool) : Reader Number := fun s =>
  match s with
  | [] => failHere .endInValue []
  | '0' :: c :: r =>
    if isDigit c then failNext .badNumber (c :: r) else afterWhole 0 (c :: r)
  | c :: r =>
    if isDigit c then
      let (significand, _, rest) := takeSignificand (c.toNat - 48) 0 r
      if rest.head?.any isDigit then longNumber negative significand rest
      else afterWhole significand rest
    else failNext .badNumber (c :: r)
where
  afterWhole (significand : Nat) : Reader Number
    | '.' :: s => fractionPart negative significand 0 s
    | c :: s =>
      if isExponentMark c then exponentPart negative significand 0 s
      else .ok (wholeNumber negative significand, c :: s)
    | [] => .ok (wholeNumber negative significand, [])

end AppDef.Json.Read
