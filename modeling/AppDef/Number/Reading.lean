import AppDef.Number.Binary
import AppDef.Text.Letters

namespace AppDef.Number

open AppDef.Text

/-- The float nearest to `coefficient * 10 ^ exponent`. Far out of range needs no power of ten. -/
def ofDecimal (negative : Bool) (coefficient : Nat) (exponent : Int) : Float :=
  let magnitude := (Nat.toDigits 10 coefficient).length + exponent
  if coefficient = 0 || magnitude < -400 then ofBits negative 0
  else if 400 < magnitude then ofBits negative infinityBits
  else nearest negative (coefficient * Nat.pow 10 exponent.toNat) (Nat.pow 10 (-exponent).toNat)

/-- A run of digits and what follows it. -/
def takeDigits (s : List Char) : List Char × List Char :=
  (s.takeWhile isDigit, s.dropWhile isDigit)

/-- The exponent that `s` is, behind its letter `e`. -/
def exponent? (s : List Char) : Option Int :=
  let (negative, digits) :=
    match s with
    | '-' :: r => (true, r)
    | '+' :: r => (false, r)
    | r => (false, r)
  if digits.isEmpty || !digits.all isDigit then none
  else
    let n := digitsValue 0 digits
    some (if negative then -n else n)

/-- An unsigned decimal number: at least one digit before or behind its point. -/
def unsigned? (negative : Bool) (s : List Char) : Option Float := do
  let (whole, rest) := takeDigits s
  let (fraction, rest) :=
    match rest with
    | '.' :: r => takeDigits r
    | r => ([], r)
  if whole.isEmpty && fraction.isEmpty then none
  else
    let power ←
      match rest with
      | [] => some 0
      | c :: r => if c = 'e' || c = 'E' then exponent? r else none
    let coefficient := digitsValue 0 (whole ++ fraction)
    some (ofDecimal negative coefficient (power - fraction.length))

def word? (negative : Bool) (s : List Char) : Option Float :=
  let lower := s.map Char.toLower
  if lower = "inf".toList || lower = "infinity".toList then some (ofBits negative infinityBits)
  else if lower = "nan".toList then some (0 / 0)
  else none

/-- The number a text writes. Blanks are not skipped. -/
def read? (s : String) : Option Float :=
  let (negative, body) :=
    match s.toList with
    | '-' :: r => (true, r)
    | '+' :: r => (false, r)
    | r => (false, r)
  (word? negative body).orElse fun _ => unsigned? negative body

end AppDef.Number
