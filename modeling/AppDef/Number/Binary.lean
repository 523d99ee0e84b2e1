
namespace AppDef.Number

/-- What becomes of a quotient that lies halfway between two whole numbers. -/
inductive Tie where
  | toEven
  | up
  deriving DecidableEq, Repr

/-- The whole number nearest to `num / den`. -/
def roundDiv (num den : Nat) (tie : Tie) : Nat :=
  let quotient := num / den
  let rest := num % den
  if 2 * rest < den then quotient
  else if den < 2 * rest then quotient + 1
  else match tie with
    | .toEven => quotient + quotient % 2
    | .up => quotient + 1

/-- The number `mantissa * 2 ^ exponent`, negated if `negative`. -/
structure Parts where
  negative : Bool
  mantissa : Nat
  exponent : Int
  deriving DecidableEq, Repr

inductive Kind where
  | finite (parts : Parts)
  | infinite (negative : Bool)
  | nan
  deriving DecidableEq, Repr

def kind (x : Float) : Kind :=
  let bits := x.toBits.toNat
  let negative := bits / Nat.pow 2 63 == 1
  let field : Nat := bits / Nat.pow 2 52 % 2048
  let low : Nat := bits % Nat.pow 2 52
  if field = 2047 then
    if low = 0 then .infinite negative else .nan
  else if field = 0 then .finite ⟨negative, low, -1074⟩
  else .finite ⟨negative, low + Nat.pow 2 52, (field : Int) - 1075⟩

/-- Numerator and denominator of `num / den * 2 ^ (-exponent)`. -/
def unscale (num den : Nat) (exponent : Int) : Nat × Nat :=
  (num * Nat.pow 2 (-exponent).toNat, den * Nat.pow 2 exponent.toNat)

/-- The bits of infinity; any larger magnitude rounds to it. -/
def infinityBits : Nat := 0x7FF0000000000000

/--
Bits of the float nearest to `num / den`, ties to even. With `53` bits of quotient the
mantissa and the exponent add up to the encoding, also when rounding carries.
-/
def nearestBits (num den : Nat) : Nat :=
  if num = 0 then 0
  else
    let low : Int := max ((num.log2 : Int) - (den.log2 : Int) - 53) (-1074)
    let (n, d) := unscale num den low
    let exponent := if n / d < Nat.pow 2 53 then low else low + 1
    let (n, d) := unscale num den exponent
    min infinityBits ((exponent + 1074).toNat * Nat.pow 2 52 + roundDiv n d .toEven)

def ofBits (negative : Bool) (magnitude : Nat) : Float :=
  Float.ofBits (UInt64.ofNat (magnitude + if negative then Nat.pow 2 63 else 0))

/-- The float nearest to a ratio. It is found by exact operations only, so a statement about a
number never depends on an approximation. -/
def nearest (negative : Bool) (num den : Nat) : Float :=
  ofBits negative (nearestBits num den)

def ofInt (i : Int) : Float :=
  nearest (i < 0) i.natAbs 1

/-- The whole number `x` is, if it is one of magnitude below nine quadrillion. -/
def whole? (x : Float) : Option Int :=
  match kind x with
  | .finite p =>
    let (n, d) := unscale p.mantissa 1 (-p.exponent)
    if n % d = 0 && n / d < 9000000000000000 then
      some (if p.negative then -(n / d : Nat) else (n / d : Nat))
    else none
  | _ => none

/-- The remainder of `a` by `b` with the sign of `a`, which is always exact. -/
def remainder (a b : Float) : Float :=
  match kind a, kind b with
  | .finite p, .finite q =>
    if q.mantissa = 0 then 0 / 0
    else
      let e := min p.exponent q.exponent
      let r := (p.mantissa * Nat.pow 2 (p.exponent - e).toNat) %
        (q.mantissa * Nat.pow 2 (q.exponent - e).toNat)
      let (n, d) := unscale r 1 (-e)
      nearest p.negative n d
  | .finite _, .infinite _ => a
  | _, _ => 0 / 0

/-- The smaller of two numbers, the first of two equal ones; one that is no number is passed over. -/
def least (a b : Float) : Float :=
  if a.isNaN || b < a then b else a

def greatest (a b : Float) : Float :=
  if a.isNaN || a < b then b else a

/-- How two numbers compare, if both are numbers. -/
def compare? (a b : Float) : Option Ordering :=
  if a < b then some .lt
  else if b < a then some .gt
  else if a == b then some .eq
  else none

end AppDef.Number
