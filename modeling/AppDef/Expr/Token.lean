import AppDef.Number.Notation

namespace AppDef.Expr

/-- Two spellings may write the same symbol, so `===` reads as `==`. -/
inductive Symbol where
  | plus
  | minus
  | star
  | starStar
  | slash
  | percent
  | bang
  | andAnd
  | orOr
  | equal
  | notEqual
  | less
  | lessEqual
  | greater
  | greaterEqual
  | question
  | colon
  | comma
  | openParen
  | closeParen
  deriving DecidableEq, Repr

def Symbol.spelling : Symbol → String
  | .plus => "+"
  | .minus => "-"
  | .star => "*"
  | .starStar => "**"
  | .slash => "/"
  | .percent => "%"
  | .bang => "!"
  | .andAnd => "&&"
  | .orOr => "||"
  | .equal => "=="
  | .notEqual => "!="
  | .less => "<"
  | .lessEqual => "<="
  | .greater => ">"
  | .greaterEqual => ">="
  | .question => "?"
  | .colon => ":"
  | .comma => ","
  | .openParen => "("
  | .closeParen => ")"

inductive Token where
  | number (value : Float)
  | text (value : String)
  | name (value : String)
  | symbol (symbol : Symbol)

def Token.describe : Token → String
  | .number x => "number " ++ Number.plain x
  | .text s => "string '" ++ s ++ "'"
  | .name s => "identifier '" ++ s ++ "'"
  | .symbol s => "'" ++ s.spelling ++ "'"

/-- A token and the characters of the source that write it. -/
structure Lexeme where
  token : Token
  start : Nat
  width : Nat

end AppDef.Expr
