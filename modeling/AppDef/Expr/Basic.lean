import AppDef.Dict
import AppDef.Expr.Token

namespace AppDef

namespace Expr

inductive PrefixOp where
  | negate
  | plus
  | not
  deriving DecidableEq, Repr

inductive Arithmetic where
  | add
  | subtract
  | multiply
  | divide
  | remainder
  | power
  deriving DecidableEq, Repr

inductive Comparison where
  | equal
  | notEqual
  | less
  | lessEqual
  | greater
  | greaterEqual
  deriving DecidableEq, Repr

inductive BinaryOp where
  | arithmetic (op : Arithmetic)
  | comparison (op : Comparison)
  | and
  | or
  deriving DecidableEq, Repr

inductive Function where
  | min
  | max
  | abs
  | round
  | floor
  | ceil
  | sqrt
  | pow
  deriving DecidableEq, Repr

namespace Function

def all : List Function :=
  [.min, .max, .abs, .round, .floor, .ceil, .sqrt, .pow]

def name : Function → String
  | .min => "min"
  | .max => "max"
  | .abs => "abs"
  | .round => "round"
  | .floor => "floor"
  | .ceil => "ceil"
  | .sqrt => "sqrt"
  | .pow => "pow"

/-- The name of a function without the one qualifier it may carry. -/
def bareName (name : String) : String :=
  match name.toList with
  | 'M' :: 'a' :: 't' :: 'h' :: '.' :: rest => String.ofList rest
  | _ => name

def lookup? (name : String) : Option Function :=
  all.find? fun f => f.name == bareName name

/-- How many arguments a function takes. -/
inductive Arity where
  | exactly (count : Nat)
  | atLeastOne
  deriving DecidableEq, Repr

def Arity.allows : Arity → Nat → Bool
  | .exactly n, count => count == n
  | .atLeastOne, count => 1 ≤ count

def Arity.describe : Arity → String
  | .exactly n => toString n
  | .atLeastOne => "at least 1"

def arity : Function → Arity
  | .min | .max => .atLeastOne
  | .pow => .exactly 2
  | .abs | .round | .floor | .ceil | .sqrt => .exactly 1

end Function

end Expr

open AppDef.Expr in
/-- Arithmetic, comparisons and conditions over named values. -/
inductive Expr where
  | number (value : Float)
  | text (value : String)
  | bool (value : Bool)
  | variable (name : String)
  | unary (op : PrefixOp) (operand : Expr)
  | binary (op : BinaryOp) (left right : Expr)
  | conditional (condition whenTrue whenFalse : Expr)
  | call (function : Function) (arguments : List Expr)
  deriving Inhabited

namespace Expr

mutual

/-- The names that stand in an expression, in the order in which they appear. -/
def mentions : Expr → List String
  | .number _ | .text _ | .bool _ => []
  | .variable name => [name]
  | .unary _ e => e.mentions
  | .binary _ l r => l.mentions ++ r.mentions
  | .conditional c t e => c.mentions ++ t.mentions ++ e.mentions
  | .call _ es => mentionsAll es

def mentionsAll : List Expr → List String
  | [] => []
  | e :: es => e.mentions ++ mentionsAll es

end

/-- The names that stand in an expression, each once, in order. -/
def variableNames (e : Expr) : List String :=
  (Dict.ofList (e.mentions.map fun name => (name, ()))).keys

/-- A text is not an expression, or not of the language of expressions, at a character. -/
inductive SyntaxFault where
  | assignment
  | strayCharacter (character : Char)
  | unterminatedText
  | empty
  | tooDeep
  | unexpectedEnd
  | unexpected (token : Token)
  | expectedColon
  | expectedClose
  | expectedArgumentEnd

def SyntaxFault.message : SyntaxFault → String
  | .assignment => "assignment is not allowed, use '=='"
  | .strayCharacter c => "unexpected character '" ++ String.singleton c ++ "'"
  | .unterminatedText => "unterminated string"
  | .empty => "empty expression"
  | .tooDeep => "expression nested too deeply"
  | .unexpectedEnd => "unexpected end of expression"
  | .unexpected token => "unexpected " ++ token.describe
  | .expectedColon => "expected ':' in conditional"
  | .expectedClose => "expected ')'"
  | .expectedArgumentEnd => "expected ',' or ')' in argument list"

end Expr

/-- Why an expression has no value. -/
inductive ExprError where
  | malformed (position : Nat) (fault : Expr.SyntaxFault)
  | unknownVariable (name : String)
  | unknownFunction (name : String)
  | arity (function : Expr.Function) (found : Nat)
  | notNumeric (operand : String)
  | notFinite

def ExprError.message : ExprError → String
  | .malformed position fault => s!"syntax error at position {position}: {fault.message}"
  | .unknownVariable name => "unknown variable " ++ name
  | .unknownFunction name => "unknown function " ++ name
  | .arity function found =>
    s!"{function.name} expects {function.arity.describe} argument(s), got {found}"
  | .notNumeric operand => operand ++ " is not numeric"
  | .notFinite => "result is not a finite number"

end AppDef
