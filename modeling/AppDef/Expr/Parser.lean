import AppDef.Expr.Lexer

namespace AppDef.Expr

/-- A reading takes an expression off the front of the lexemes. -/
abbrev Reading := List Lexeme → Except ExprError (Expr × List Lexeme)

/-- Where a reading stands; `finish` is the length of the source. -/
def positionOf (finish : Nat) : List Lexeme → Nat
  | [] => finish
  | l :: _ => l.start

def refuse {α : Type} (finish : Nat) (fault : SyntaxFault) (s : List Lexeme) : Except ExprError α :=
  .error (.malformed (positionOf finish s) fault)

/-- What follows the symbol, if the lexemes start with it. -/
def eat? (symbol : Symbol) : List Lexeme → Option (List Lexeme)
  | ⟨.symbol found, _, _⟩ :: rest => if found = symbol then some rest else none
  | _ => none

def expect (finish : Nat) (symbol : Symbol) (fault : SyntaxFault) (s : List Lexeme) :
    Except ExprError (List Lexeme) :=
  match eat? symbol s with
  | some rest => .ok rest
  | none => refuse finish fault s

def disjunction? : Token → Option BinaryOp
  | .symbol .orOr => some .or
  | .name "or" => some .or
  | _ => none

def conjunction? : Token → Option BinaryOp
  | .symbol .andAnd => some .and
  | .name "and" => some .and
  | _ => none

def equality? : Token → Option BinaryOp
  | .symbol .equal => some (.comparison .equal)
  | .symbol .notEqual => some (.comparison .notEqual)
  | _ => none

def ordering? : Token → Option BinaryOp
  | .symbol .less => some (.comparison .less)
  | .symbol .lessEqual => some (.comparison .lessEqual)
  | .symbol .greater => some (.comparison .greater)
  | .symbol .greaterEqual => some (.comparison .greaterEqual)
  | _ => none

def additive? : Token → Option BinaryOp
  | .symbol .plus => some (.arithmetic .add)
  | .symbol .minus => some (.arithmetic .subtract)
  | _ => none

def multiplicative? : Token → Option BinaryOp
  | .symbol .star => some (.arithmetic .multiply)
  | .symbol .slash => some (.arithmetic .divide)
  | .symbol .percent => some (.arithmetic .remainder)
  | _ => none

def prefixOp? : Token → Option PrefixOp
  | .symbol .minus => some .negate
  | .symbol .plus => some .plus
  | .symbol .bang => some .not
  | .name "not" => some .not
  | _ => none

/-- More operands joined to `left` from the left. Each takes an operator, so the lexemes bound them. -/
def joined (operator? : Token → Option BinaryOp) (operand : Reading) : (fuel : Nat) → Expr → Reading
  | 0, left, s => .ok (left, s)
  | _, left, [] => .ok (left, [])
  | fuel + 1, left, l :: s =>
    match operator? l.token with
    | none => .ok (left, l :: s)
    | some op => do
      let (right, s) ← operand s
      joined operator? operand fuel (.binary op left right) s

def level (operator? : Token → Option BinaryOp) (operand : Reading) : Reading := fun s => do
  let (left, s) ← operand s
  joined operator? operand s.length left s

/-- All levels of binary operators over `unary`. -/
def binaryLevels (unary : Reading) : Reading :=
  level disjunction? <| level conjunction? <| level equality? <| level ordering? <|
    level additive? <| level multiplicative? unary

def tooDeep (finish : Nat) : Reading :=
  refuse finish .tooDeep

/-- An expression whose condition is over `unary` and whose branches are `branch`. -/
def conditionalOver (finish : Nat) (branch unary : Reading) : Reading := fun s => do
  let (condition, s) ← binaryLevels unary s
  match eat? .question s with
  | none => return (condition, s)
  | some s =>
    let (whenTrue, s) ← branch s
    let s ← expect finish .colon .expectedColon s
    let (whenFalse, s) ← branch s
    return (.conditional condition whenTrue whenFalse, s)

/-- Arguments up to the closing parenthesis, at least one. -/
def moreArguments (finish : Nat) (expression : Reading) :
    (fuel : Nat) → List Lexeme → Except ExprError (List Expr × List Lexeme)
  | 0, s => refuse finish .expectedArgumentEnd s
  | fuel + 1, s => do
    let (e, s) ← expression s
    match eat? .comma s with
    | some s =>
      let (es, s) ← moreArguments finish expression fuel s
      return (e :: es, s)
    | none => return ([e], ← expect finish .closeParen .expectedArgumentEnd s)

def arguments (finish : Nat) (expression : Reading) (s : List Lexeme) :
    Except ExprError (List Expr × List Lexeme) :=
  match eat? .closeParen s with
  | some s => .ok ([], s)
  | none => moreArguments finish expression (s.length + 1) s

/-- A call behind its opening parenthesis. -/
def callOf (finish : Nat) (expression : Reading) (name : String) : Reading := fun s =>
  match Function.lookup? name with
  | none => .error (.unknownFunction name)
  | some function => do
    let (args, s) ← arguments finish expression s
    if function.arity.allows args.length then return (.call function args, s)
    else .error (.arity function args.length)

def primary (finish : Nat) (expression : Reading) : Reading
  | [] => refuse finish .unexpectedEnd []
  | l :: s =>
    match l.token with
    | .number x => .ok (.number x, s)
    | .text t => .ok (.text t, s)
    | .symbol .openParen => do
      let (e, s) ← expression s
      return (e, ← expect finish .closeParen .expectedClose s)
    | .symbol other => refuse finish (.unexpected (.symbol other)) (l :: s)
    | .name "true" => .ok (.bool true, s)
    | .name "false" => .ok (.bool false, s)
    | .name name =>
      match eat? .openParen s with
      | some s => callOf finish expression name s
      | none => .ok (.variable name, s)

/-- A base and its exponent, if it has one. -/
def powerOver (finish : Nat) (operand expression : Reading) : Reading := fun s => do
  let (base, s) ← primary finish expression s
  match eat? .starStar s with
  | none => return (base, s)
  | some s =>
    let (exponent, s) ← operand s
    return (.binary (.arithmetic .power) base exponent, s)

/-- A primary behind its prefix operators; `operand` is read behind one operator. -/
def unaryOver (finish : Nat) (operand expression : Reading) : Reading := fun s =>
  match s.head?.bind (prefixOp? ·.token) with
  | some op => do
    let (e, s) ← operand s.tail
    return (.unary op e, s)
  | none => powerOver finish operand expression s

mutual

/-- An expression that may open `room` productions, itself among them. -/
def expressionIn (finish : Nat) : (room : Nat) → Reading
  | 0 => tooDeep finish
  | room + 1 => conditionalOver finish (expressionIn finish room) (unaryIn finish room)

def unaryIn (finish : Nat) : (room : Nat) → Reading
  | 0 => unaryOver finish (tooDeep finish) (tooDeep finish)
  | room + 1 =>
    unaryOver finish (unaryIn finish room)
      (conditionalOver finish (expressionIn finish room) (unaryIn finish room))

end

def maxDepth : Nat := 64

/-- Nothing may follow an expression. -/
def complete (finish : Nat) : Expr × List Lexeme → Except ExprError Expr
  | (e, []) => .ok e
  | (_, l :: s) => refuse finish (.unexpected l.token) (l :: s)

/-- The levels of binary operators bind from `or`, the loosest, to `*`, and group to the left; `**`
binds tighter than the operators before its base and groups to the right. -/
def parse (source : String) : Except ExprError Expr := do
  let lexemes ← lex source
  let finish := source.toList.length
  if lexemes.isEmpty then .error (.malformed 0 .empty)
  else complete finish (← expressionIn finish maxDepth lexemes)

end AppDef.Expr
