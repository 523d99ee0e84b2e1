import AppDef.Number.Binary

namespace AppDef.Number

/-- The number `coefficient * 10 ^ exponent`. -/
structure Decimal where
  coefficient : Nat
  exponent : Int
  deriving DecidableEq, Repr

/-- The same number without zeros at the end of its coefficient. -/
def Decimal.strip : Nat → Decimal → Decimal
  | 0, d => d
  | fuel + 1, d =>
    if d.coefficient ≠ 0 && d.coefficient % 10 = 0 then
      strip fuel ⟨d.coefficient / 10, d.exponent + 1⟩
    else d

/-- The reals that round to `mantissa * 2 ^ exponent`, in quarters of the last binary place. -/
structure Interval where
  low : Nat
  middle : Nat
  high : Nat
  closed : Bool
  exponent : Int

def Interval.around (mantissa : Nat) (exponent : Int) : Interval where
  low := 4 * mantissa - if mantissa = Nat.pow 2 52 && -1074 < exponent then 1 else 2
  middle := 4 * mantissa
  high := 4 * mantissa + 2
  closed := mantissa % 2 = 0
  exponent := exponent - 2

/-- `quarters` of the interval against `count` grid points `10 ^ place` apart, over one denominator. -/
def Interval.scale (i : Interval) (place : Int) (quarters count : Nat) : Nat × Nat :=
  (quarters * Nat.pow 2 i.exponent.toNat * Nat.pow 10 (-place).toNat,
    count * Nat.pow 2 (-i.exponent).toNat * Nat.pow 10 place.toNat)

def Interval.holds (i : Interval) (place : Int) (count : Nat) : Bool :=
  let (low, point) := i.scale place i.low count
  let (high, _) := i.scale place i.high count
  if i.closed then low ≤ point && point ≤ high else low < point && point < high

/-- The point of the grid `10 ^ place` that reads back as the interval's middle, if there is one. -/
def Interval.gridPoint? (i : Interval) (tie : Tie) (place : Int) : Option Nat :=
  let (middle, unit) := i.scale place i.middle 1
  let below := middle / unit
  match i.holds place below, i.holds place (below + 1) with
  | true, true => some (roundDiv middle unit tie)
  | true, false => some below
  | false, true => some (below + 1)
  | false, false => none

/-- The exponent of the power of ten just above the middle. -/
def Interval.magnitude (i : Interval) : Int :=
  let guess := ((i.middle.log2 : Int) + i.exponent) * 30103 / 100000
  let reaches (place : Int) : Bool :=
    let (middle, unit) := i.scale place i.middle 1
    unit ≤ middle
  if reaches (guess + 1) then guess + 2 else if reaches guess then guess + 1 else guess

def Interval.search (i : Interval) (tie : Tie) (magnitude : Int) : (left digits : Nat) → Decimal
  | 0, digits =>
    let place := magnitude - digits
    let (middle, unit) := i.scale place i.middle 1
    ⟨roundDiv middle unit tie, place⟩
  | left + 1, digits =>
    let place := magnitude - digits
    match i.gridPoint? tie place with
    | some count => ⟨count, place⟩
    | none => search i tie magnitude left (digits + 1)

/-- Seventeen digits are always enough, so the search goes over one to sixteen before them. -/
def shortest (tie : Tie) (mantissa : Nat) (exponent : Int) : Decimal :=
  if mantissa = 0 then ⟨0, 0⟩
  else
    let i := Interval.around mantissa exponent
    (i.search tie i.magnitude 16 1).strip 17

end AppDef.Number
