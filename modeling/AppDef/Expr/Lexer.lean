import AppDef.Expr.Basic
import AppDef.Number.Reading
import AppDef.Text.Blank

namespace AppDef.Expr

open AppDef.Text AppDef.Number

/-- The symbol a text starts with, and how many characters behind its first one it takes. -/
def symbol? : Char → List Char → Option (Symbol × Nat)
  | '*', '*' :: _ => some (.starStar, 1)
  | '*', _ => some (.star, 0)
  | '/', _ => some (.slash, 0)
  | '%', _ => some (.percent, 0)
  | '+', _ => some (.plus, 0)
  | '-', _ => some (.minus, 0)
  | '!', '=' :: '=' :: _ => some (.notEqual, 2)
  | '!', '=' :: _ => some (.notEqual, 1)
  | '!', _ => some (.bang, 0)
  | '=', '=' :: '=' :: _ => some (.equal, 2)
  | '=', '=' :: _ => some (.equal, 1)
  | '<', '=' :: _ => some (.lessEqual, 1)
  | '<', _ => some (.less, 0)
  | '>', '=' :: _ => some (.greaterEqual, 1)
  | '>', _ => some (.greater, 0)
  | '&', '&' :: _ => some (.andAnd, 1)
  | '|', '|' :: _ => some (.orOr, 1)
  | '?', _ => some (.question, 0)
  | ':', _ => some (.colon, 0)
  | ',', _ => some (.comma, 0)
  | '(', _ => some (.openParen, 0)
  | ')', _ => some (.closeParen, 0)
  | _, _ => none

def isNameStart (c : Char) : Bool :=
  isLetter c || c == '_'

def isNamePart (c : Char) : Bool :=
  isAlphanumeric c || c == '_'

/-- How far a name goes on. A point belongs to it if a name could start behind the point. -/
def nameTail : List Char → Nat
  | [] => 0
  | c :: s =>
    if isNamePart c || (c == '.' && s.head?.any isNameStart) then nameTail s + 1 else 0

/-- The power of ten behind a number, if there is one, and what follows. -/
def powerOfTen (s : List Char) : Int × List Char :=
  match s with
  | c :: r =>
    if c = 'e' || c = 'E' then
      let (negative, r) :=
        match r with
        | '-' :: r => (true, r)
        | '+' :: r => (false, r)
        | r => (false, r)
      let (digits, rest) := takeDigits r
      if digits.isEmpty then (0, s)
      else
        let n := digitsValue 0 digits
        (if negative then -n else n, rest)
    else (0, s)
  | [] => (0, [])

/-- The number a text starts with, and what follows. -/
def numeral (s : List Char) : Float × List Char :=
  let (whole, rest) := takeDigits s
  let (fraction, rest) :=
    match rest with
    | '.' :: r => takeDigits r
    | r => ([], r)
  let (power, rest) := powerOfTen rest
  (ofDecimal false (digitsValue 0 (whole ++ fraction)) (power - fraction.length), rest)

/-- The character that a letter behind a backslash writes. -/
def unescape : Char → Char
  | 'n' => '\n'
  | 't' => '\t'
  | c => c

/-- The text up to the closing quote, and how many characters it takes with that quote. -/
def literal? (quote : Char) : List Char → Option (List Char × Nat)
  | [] => none
  | '\\' :: [] => none
  | '\\' :: c :: s => (literal? quote s).map fun (cs, n) => (unescape c :: cs, n + 2)
  | c :: s =>
    if c = quote then some ([], 1)
    else (literal? quote s).map fun (cs, n) => (c :: cs, n + 1)

/-- The token that starts at `c`, and how many of the following characters it takes. -/
def token (c : Char) (s : List Char) : Except SyntaxFault (Token × Nat) :=
  if isDigit c || (c == '.' && s.head?.any isDigit) then
    let (value, rest) := numeral (c :: s)
    .ok (.number value, s.length - rest.length)
  else if c == '\'' || c == '"' then
    match literal? c s with
    | some (cs, n) => .ok (.text (String.ofList cs), n)
    | none => .error .unterminatedText
  else if isNameStart c then
    let n := nameTail s
    .ok (.name (String.ofList (c :: s.take n)), n)
  else
    match symbol? c s with
    | some (symbol, n) => .ok (.symbol symbol, n)
    | none => .error (if c = '=' then .assignment else .strayCharacter c)

/-- The lexemes of a text that starts at `position`. Its first `taken` characters belong to a token before it. -/
def lexFrom (position : Nat) : (taken : Nat) → List Char → Except ExprError (List Lexeme)
  | _, [] => .ok []
  | taken + 1, _ :: s => lexFrom (position + 1) taken s
  | 0, c :: s =>
    if isBlank c then lexFrom (position + 1) 0 s
    else
      match token c s with
      | .error fault => .error (.malformed position fault)
      | .ok (token, more) =>
        (lexFrom (position + 1) more s).map (⟨token, position, 1 + more⟩ :: ·)

/-- Blanks stand between tokens and are in none, each other character is in exactly one, and the
longest symbol is taken. -/
def lex (source : String) : Except ExprError (List Lexeme) :=
  lexFrom 0 0 source.toList

end AppDef.Expr
