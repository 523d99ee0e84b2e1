import AppDef.Pattern.Parser
import AppDef.Pattern.Property

namespace AppDef

namespace Pattern

/-- What is asked of the words next to a place. -/
inductive Boundary where
  | word
  | notWord
  | start
  | stop
  | startHalf
  | stopHalf
  deriving DecidableEq, Repr

/-- What is asked of a place without taking a character. -/
inductive Look where
  | start
  | stop
  | lineStart (crlf : Bool)
  | lineEnd (crlf : Bool)
  | boundary (kind : Boundary) (unicode : Bool)
  deriving DecidableEq, Repr

end Pattern

open Pattern in
inductive Pattern where
  | one (set : CharSet)
  | look (look : Look)
  | concat (parts : List Pattern)
  | alternation (branches : List Pattern)
  | repetition (body : Pattern) (min : Nat) (max? : Option Nat)

namespace Pattern

def empty : Pattern := .concat []

structure Flags where
  ignoreCase : Bool
  multiLine : Bool
  dotAll : Bool
  unicode : Bool
  crlf : Bool

def Flags.default : Flags := ⟨false, false, false, true, false⟩

def Flags.update (f : Flags) (items : List FlagItem) : Flags where
  ignoreCase := (flagState .ignoreCase items).getD f.ignoreCase
  multiLine := (flagState .multiLine items).getD f.multiLine
  dotAll := (flagState .dotAll items).getD f.dotAll
  unicode := (flagState .unicode items).getD f.unicode
  crlf := (flagState .crlf items).getD f.crlf

abbrev Meaning (α : Type) := Except SyntaxError α

def refuseAt {α : Type} (span : Span) (fault : Fault) : Meaning α :=
  .error ⟨fault, span, none⟩

/-- A set that matches bytes must keep to ASCII. -/
def encodable (f : Flags) (span : Span) (set : CharSet) : Meaning CharSet :=
  if f.unicode || set.isAscii then .ok set else refuseAt span .invalidEncoding

/-- Case is ignored before a class is negated. -/
def foldAndNegate (f : Flags) (span : Span) (negated : Bool) (set : CharSet) : Meaning CharSet :=
  encodable f span ((if f.ignoreCase then .folded f.unicode set else set).negateIf negated)

/-- A character that is written as a byte stands for that byte where bytes are matched. -/
def checkByte (f : Flags) (l : Literal) : Meaning Unit :=
  if !f.unicode && l.isByte && 127 < l.character.toNat then refuseAt l.span .invalidEncoding
  else .ok ()

def literalPattern (f : Flags) (l : Literal) : Meaning Pattern := do
  checkByte f l
  let set := CharSet.single l.character
  return .one (if f.ignoreCase then .folded f.unicode set else set)

/-- A literal within brackets. -/
def classLiteral (f : Flags) (l : Literal) : Meaning Nat := do
  checkByte f l
  if !f.unicode && 127 < l.character.toNat then refuseAt l.span .unicodeNotAllowed
  else return l.character.toNat

def simpleSet (f : Flags) (span : Span) : SimpleClass → Meaning CharSet
  | .letter kind negated => encodable f span ((kind.set f.unicode).negateIf negated)
  | .property name negated =>
    if !f.unicode then refuseAt span .unicodeNotAllowed
    else
      match name.set with
      | .ok set => foldAndNegate f span negated set
      | .error fault => refuseAt span fault

mutual

def classSet (f : Flags) : ClassSet → Meaning CharSet
  | .empty _ => .ok (.ranges [])
  | .literal l => do
    let n ← classLiteral f l
    return .ranges [(n, n)]
  | .range _ low high => do
    let low ← classLiteral f low
    let high ← classLiteral f high
    return .ranges [(low, high)]
  | .ascii span name negated => foldAndNegate f span negated (asciiSet name)
  | .simple span class_ => simpleSet f span class_
  | .bracketed span negated set => do foldAndNegate f span negated (← classSet f set)
  | .union _ items => do return .union (← classSets f items)
  | .op _ op left right => do
    let left ← classSet f left
    let right ← classSet f right
    let fold (set : CharSet) : CharSet := if f.ignoreCase then .folded f.unicode set else set
    return .op op (fold left) (fold right)

def classSets (f : Flags) : List ClassSet → Meaning (List CharSet)
  | [] => .ok []
  | item :: items => do
    let set ← classSet f item
    return set :: (← classSets f items)

end

def dotSet (f : Flags) : CharSet :=
  if f.dotAll then .complement (.ranges [])
  else if f.crlf then .complement (.ranges [(10, 10), (13, 13)])
  else .complement (.ranges [(10, 10)])

def lookOf (f : Flags) : Assertion → Look
  | .startLine => if f.multiLine then .lineStart f.crlf else .start
  | .endLine => if f.multiLine then .lineEnd f.crlf else .stop
  | .startText => .start
  | .endText => .stop
  | .wordBoundary => .boundary .word f.unicode
  | .notWordBoundary => .boundary .notWord f.unicode
  | .wordStart => .boundary .start f.unicode
  | .wordEnd => .boundary .stop f.unicode
  | .wordStartHalf => .boundary .startHalf f.unicode
  | .wordEndHalf => .boundary .stopHalf f.unicode

mutual

/-- The pattern of a syntax, and the flags that hold behind it. -/
def ofAst (f : Flags) : Ast → Meaning (Pattern × Flags)
  | .empty _ => .ok (Pattern.empty, f)
  | .flags _ items => .ok (Pattern.empty, f.update items)
  | .literal l => do return (← literalPattern f l, f)
  | .dot span => if f.unicode then .ok (.one (dotSet f), f) else refuseAt span .invalidEncoding
  | .assertion _ a => .ok (.look (lookOf f a), f)
  | .simple span class_ => do return (.one (← simpleSet f span class_), f)
  | .bracketed span negated set => do
    return (.one (← foldAndNegate f span negated (← classSet f set)), f)
  | .repetition _ min max? body => do
    let (p, f) ← ofAst f body
    return (.repetition p min max?, f)
  | .group _ items body => do return (.concat [(← ofAst (f.update items) body).1], f)
  | .alternation _ branches => do
    let (ps, f) ← ofAsts f branches
    return (.alternation ps, f)
  | .concat _ parts => do
    let (ps, f) ← ofAsts f parts
    return (.concat ps, f)

def ofAsts (f : Flags) : List Ast → Meaning (List Pattern × Flags)
  | [] => .ok ([], f)
  | a :: as => do
    let (p, f) ← ofAst f a
    let (ps, f) ← ofAsts f as
    return (p :: ps, f)

end

/-- The pattern that a source writes. Its syntax and its meaning are followed, and no bound is set
to the size of what it comes to. -/
def compile (source : List Char) : Meaning Pattern := do
  return (← ofAst .default (← parse source)).1

end Pattern

end AppDef
