import AppDef.Environment
import AppDef.Expr.Parser
import AppDef.Scalar

namespace AppDef

namespace Expr

/-- A formula fails on an unknown variable or an operand that is no number. A guard takes them as
missing, and a comparison with a missing value is false. -/
inductive Mode where
  | formula
  | guard
  deriving DecidableEq, Repr

def Arithmetic.apply : Arithmetic → Float → Float → Float
  | .add, x, y => x + y
  | .subtract, x, y => x - y
  | .multiply, x, y => x * y
  | .divide, x, y => x / y
  | .remainder, x, y => Number.remainder x y
  | .power, x, y => Float.pow x y

def Comparison.holds : Comparison → Scalar → Scalar → Bool
  | .equal, a, b => (a.equal? b).getD false
  | .notEqual, a, b => (a.equal? b).any (!·)
  | .less, a, b => (a.order? b).any (·.isLT)
  | .lessEqual, a, b => (a.order? b).any (·.isLE)
  | .greater, a, b => (a.order? b).any (·.isGT)
  | .greaterEqual, a, b => (a.order? b).any (·.isGE)

def infinity (negative : Bool) : Float :=
  Number.ofBits negative Number.infinityBits

/-- The value of a function, if it takes that many numbers. -/
def Function.apply? : Function → List Float → Option Float
  | .min, xs => some (xs.foldl Number.least (infinity false))
  | .max, xs => some (xs.foldl Number.greatest (infinity true))
  | .abs, [x] => some x.abs
  | .round, [x] => some x.round
  | .floor, [x] => some x.floor
  | .ceil, [x] => some x.ceil
  | .sqrt, [x] => some x.sqrt
  | .pow, [x, y] => some (x.pow y)
  | _, _ => none

/-- What an operand is called in an error about it. -/
def describe : Expr → String
  | .variable name => name
  | .text s => "'" ++ s ++ "'"
  | _ => "expression"

/-- The number that `operand` came to, `none` when it is missing. -/
def numeric (mode : Mode) (operand : Expr) (value : Scalar) : Except ExprError (Option Float) :=
  match value.asNumber?, mode with
  | some x, _ => .ok (some x)
  | none, .guard => .ok none
  | none, .formula => .error (.notNumeric operand.describe)

def ofNumber? : Option Float → Scalar
  | some x => .number x
  | none => .missing

mutual

def eval (mode : Mode) (env : Environment) : Expr → Except ExprError Scalar
  | .number x => .ok (.number x)
  | .text s => .ok (.text s)
  | .bool b => .ok (.bool b)
  | .variable name =>
    match env.get? name, mode with
    | some v, _ => .ok (Scalar.ofJson v)
    | none, .guard => .ok .missing
    | none, .formula => .error (.unknownVariable name)
  | .unary op e => do
    let a ← eval mode env e
    match op with
    | .not => return .bool !a.truthy
    | .negate => return ofNumber? ((← numeric mode e a).map (- ·))
    | .plus => return ofNumber? (← numeric mode e a)
  | .binary .and l r => do
    let a ← eval mode env l
    if a.truthy then eval mode env r else return a
  | .binary .or l r => do
    let a ← eval mode env l
    if a.truthy then return a else eval mode env r
  | .binary (.comparison op) l r => do
    let a ← eval mode env l
    let b ← eval mode env r
    return .bool (op.holds a b)
  | .binary (.arithmetic op) l r => do
    let a ← eval mode env l
    let b ← eval mode env r
    match ← numeric mode l a, ← numeric mode r b with
    | some x, some y => return .number (op.apply x y)
    | _, _ => return .missing
  | .conditional c t e => do
    let a ← eval mode env c
    if a.truthy then eval mode env t else eval mode env e
  | .call f args => do
    match ← evalArguments mode env args with
    | none => return .missing
    | some xs =>
      match f.apply? xs with
      | some x => return .number x
      | none => .error (.arity f xs.length)

/-- The numbers of all arguments. The first one that is missing ends the evaluation. -/
def evalArguments (mode : Mode) (env : Environment) :
    List Expr → Except ExprError (Option (List Float))
  | [] => .ok (some [])
  | e :: es => do
    let a ← eval mode env e
    match ← numeric mode e a with
    | none => return none
    | some x => return (← evalArguments mode env es).map (x :: ·)

end

/-- The finite number an expression comes to. -/
def evalNumber (env : Environment) (e : Expr) : Except ExprError Float := do
  match (← eval .formula env e).asNumber? with
  | none => .error (.notNumeric "result")
  | some x => if x.isFinite then return x else .error .notFinite

def evalBool (env : Environment) (e : Expr) : Bool :=
  match eval .guard env e with
  | .ok a => a.truthy
  | .error _ => false

end Expr

def evaluateFormula (source : String) (env : Environment) : Except ExprError Float := do
  (← Expr.parse source).evalNumber env

def evaluateGuard (source : String) (env : Environment) : Except ExprError Bool := do
  return (← Expr.parse source).evalBool env

end AppDef
