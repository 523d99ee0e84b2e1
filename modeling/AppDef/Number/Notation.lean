import AppDef.Number.Shortest

namespace AppDef.Number

def zeros (n : Nat) : List Char :=
  List.replicate n '0'

def decimalDigits (n : Nat) : List Char :=
  Nat.toDigits 10 n

/-- `digits` read as a whole number times `10 ^ exponent`, without an exponent. -/
def positional (digits : List Char) (exponent : Int) : List Char :=
  let places := (-exponent).toNat
  if places = 0 then digits ++ zeros exponent.toNat
  else if places < digits.length then
    digits.take (digits.length - places) ++ '.' :: digits.drop (digits.length - places)
  else '0' :: '.' :: zeros (places - digits.length) ++ digits

/-- One digit, the others behind a point, and the power of ten with its sign. -/
def scientific (digits : List Char) (power : Int) : List Char :=
  digits.take 1 ++ (if digits.length ≤ 1 then [] else '.' :: digits.drop 1) ++
    'e' :: (if power < 0 then '-' else '+') :: decimalDigits power.natAbs

def signed (negative : Bool) (text : List Char) : List Char :=
  if negative then '-' :: text else text

/-- The shortest digits that read back, never with an exponent; a tie between them goes up. -/
def plain (x : Float) : String :=
  match kind x with
  | .nan => "NaN"
  | .infinite negative => String.ofList (signed negative "inf".toList)
  | .finite p =>
    let d := shortest .up p.mantissa p.exponent
    String.ofList (signed p.negative (positional (decimalDigits d.coefficient) d.exponent))

/-- Whole numbers below nine quadrillion as integers, without the sign of a zero; else plain. -/
def display (x : Float) : String :=
  match whole? x with
  | some i => toString i
  | none => plain x

/--
The shortest digits that read back, always with a point or an exponent: positional from
`10 ^ (-5)` up to below `10 ^ 16`. A tie between two shortest forms goes to the even one.
-/
def compact (x : Float) : String :=
  match kind x with
  | .nan | .infinite _ => "null"
  | .finite p =>
    let d := shortest .toEven p.mantissa p.exponent
    let digits := decimalDigits d.coefficient
    let power := d.exponent + digits.length - 1
    let text :=
      if -5 ≤ power && power < 16 then
        positional digits d.exponent ++ if 0 ≤ d.exponent then ['.', '0'] else []
      else scientific digits power
    String.ofList (signed p.negative text)

/-- Rounded to `places` decimal places, a half to the even neighbour. The sign of `x` is kept. -/
def fixed (places : Nat) (x : Float) : String :=
  match kind x with
  | .nan => "NaN"
  | .infinite negative => String.ofList (signed negative "inf".toList)
  | .finite p =>
    let (n, d) := unscale (p.mantissa * Nat.pow 10 places) 1 (-p.exponent)
    let digits := decimalDigits (roundDiv n d .toEven)
    let padded := zeros (places + 1 - digits.length) ++ digits
    String.ofList (signed p.negative (positional padded (-places)))

end AppDef.Number
