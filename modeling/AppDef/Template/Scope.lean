import AppDef.Dict
import AppDef.Template.Basic
import AppDef.Template.Helper

namespace AppDef.Template

/-- A block that rendering is in: its value, the names it binds, and what is known of the step. -/
structure Block where
  value : Json
  names : List (String × Json)
  locals : List (String × Json)

/-- The data of the template and the blocks around a place, the innermost first. -/
structure Scope where
  data : Json
  blocks : List Block

namespace Scope

def ofData (data : Json) : Scope :=
  ⟨data, [⟨data, [], []⟩]⟩

def enter (s : Scope) (b : Block) : Scope :=
  { s with blocks := b :: s.blocks }

def value (s : Scope) : Json :=
  (s.blocks.head?.map (·.value)).getD s.data

end Scope

/-- A place in a list, which may carry a plus sign. -/
def index? (name : String) : Option Nat :=
  let digits :=
    match name.toList with
    | '+' :: r => r
    | r => r
  if digits.isEmpty || !digits.all Text.isDigit then none
  else
    let n := Text.digitsValue 0 digits
    if n < Nat.pow 2 64 then some n else none

/-- One step down; a list has no named members. -/
def member (value : Json) (name : String) : Except Fault (Option Json) :=
  match value with
  | .array items =>
    match index? name with
    | some i => .ok items[i]?
    | none => .error .refused
  | .object members => .ok (members.lookup name)
  | _ => .ok none

def descend : Option Json → List String → Except Fault (Option Json)
  | v?, [] => .ok v?
  | none, _ => .ok none
  | some v, name :: names => do descend (← member v name) names

def namesOf (segments : List Segment) : List String :=
  segments.filterMap fun | .named name => some name | _ => none

def countUps (segments : List Segment) : Nat :=
  (segments.takeWhile (· == .up)).length

namespace Scope

def bound? (s : Scope) (name : String) : Option Json :=
  s.blocks.findSome? (·.names.lookup name)

/-- What is known of a step under a name, so many blocks further out. -/
def local? (s : Scope) (segments : List Segment) : Option Json :=
  let ups := countUps segments
  match segments.drop ups with
  | .named name :: _ => (s.blocks[ups]?).bind (·.locals.lookup name)
  | _ => none

/-- The value of a path, `none` when there is no such member. -/
def resolve (s : Scope) (segments : List Segment) : Except Fault (Option Json) :=
  let ups := countUps segments
  let rest := segments.drop ups
  match rest, segments with
  | .named name :: below, _ =>
    match s.bound? name with
    | some v => descend (some v) (namesOf below)
    | none => descend (some (outer ups)) (namesOf rest)
  | .root :: _, _ =>
    descend (some (if ups = 0 then s.data else outer ups)) (namesOf rest)
  | .local :: below, .local :: _ =>
    match below.drop (countUps below) with
    | .named _ :: _ => .ok (s.local? below)
    | _ => descend (some s.value) (namesOf rest)
  | _, _ => descend (some (outer ups)) (namesOf rest)
where
  /-- The value so many blocks further out; past the outermost it is the innermost again. -/
  outer (ups : Nat) : Json :=
    ((s.blocks[ups]?).map (·.value)).getD s.value

end Scope

end AppDef.Template
