import AppDef.Json.Skip

namespace AppDef.Json

/-- What a member of a record may be. -/
inductive Shape where
  | text
  | unsigned
  | map
  deriving DecidableEq, Repr

def Shape.expected : Shape → Expected
  | .text => .text
  | .unsigned => .unsigned
  | .map => .map

/-- A value has the shape, or the error about it. -/
def Shape.check (shape : Shape) (value : Json) : Except ShapeError Json :=
  match shape, value with
  | .text, .text _ => .ok value
  | .map, .object _ => .ok value
  | .unsigned, .number (.whole i) => if i < 0 then .error (.outOfRange i) else .ok value
  | _, _ => mismatch value shape.expected

structure Record where
  name : String
  members : List (String × Shape)
  /-- Whether each member may be left out. -/
  optional : List Bool

/-- The values of a record's members that were given, in the record's order. -/
abbrev Given := List (Option Json)

namespace Record

def empty (r : Record) : Given :=
  r.members.map fun _ => none

/-- The first member without which there is no record. -/
def lacking? (r : Record) (given : Given) : Option String :=
  ((r.members.zip (r.optional.zip given)).find? fun (_, optional, value) =>
    !optional && value.isNone).map (·.1.1)

/-- The place in a list where a member is lacking. -/
def lackingPlace? (r : Record) (count : Nat) : Option Nat :=
  (List.range r.members.length).find? fun i => count ≤ i && !r.optional.getD i true

end Record

namespace Read

/-- A value that was begun but is not of the expected shape. -/
def wrongShape {α : Type} (expected : Expected) (s : List Char) : Except Failure α :=
  let report (found : Found) (rest : List Char) : Except Failure α :=
    failHere (.shape (.mismatch found expected)) rest
  match s with
  | 'n' :: r => do report .null (← word ['u', 'l', 'l'] r).2
  | 't' :: r => do report (.bool true) (← word ['r', 'u', 'e'] r).2
  | 'f' :: r => do report (.bool false) (← word ['a', 'l', 's', 'e'] r).2
  | '-' :: r => do
    let (n, r) ← number true r
    report (found (.number n)) r
  | '"' :: r => do
    let (t, r) ← quotedText r
    report (.text t) r
  | '[' :: r => report .sequence ('[' :: r)
  | '\x7b' :: r => report .map ('\x7b' :: r)
  | s => do
    if s.head?.any Text.isDigit then
      let (n, r) ← number false s
      report (found (.number n)) r
    else failNext .expectedValue s

/-- A fault of a whole record is reported behind its closing bracket, or where that was looked for. -/
def atEnd {α : Type} (error : ShapeError) (close : List Char → Except Failure (List Char))
    (s : List Char) : Except Failure α :=
  match close s with
  | .ok r => failHere (.shape error) r
  | .error f => failHere (.shape error) f.rest

def shaped (shape : Shape) (depth : Nat) : Reader Json := fun s =>
  match shape, skipSpace s with
  | _, [] => failHere .endInValue []
  | .text, '"' :: r => (quotedText r).map fun (t, r) => (.text t, r)
  | .map, '\x7b' :: r =>
    if depth ≤ 1 then failNext .tooDeep ('\x7b' :: r)
    else do
      let (ms, r) ← members (enough r) (depth - 1) true r
      return (.object (Members.ofList ms), ← closeObject r)
  | .unsigned, c :: r =>
    if c = '-' || Text.isDigit c then do
      let (n, r) ← if c = '-' then number true r else number false (c :: r)
      match shape.check (.number n) with
      | .ok v => return (v, r)
      | .error e => failHere (.shape e) r
    else wrongShape .unsigned (c :: r)
  | _, s => wrongShape shape.expected s

/-- The members of a record written as an object, behind its bracket. -/
def recordMembers (record : Record) (depth : Nat) :
    (fuel : Nat) → (first : Bool) → Given → Reader Given
  | 0, _, _, s => failHere .endInValue s
  | fuel + 1, first, given, s => do
    match ← nextMember first s with
    | .close r =>
      match record.lacking? given with
      | some member => atEnd (.missing member) closeObject r
      | none => return (given, ← closeObject r)
    | .item r =>
      let (key, r) ← quotedText r
      match record.members.findIdx? (·.1 == key) with
      | some i =>
        if (given.getD i none).isSome then atEnd (.duplicate key) closeObject r
        else
          let r ← colon r
          let (v, r) ← shaped (record.members.getD i (key, .text)).2 depth r
          recordMembers record depth fuel false (given.set i (some v)) r
      | none =>
        let r ← colon r
        recordMembers record depth fuel false given (← skip r)

/-- The members of a record written as a list, behind its bracket. -/
def recordItems (record : Record) (depth : Nat) :
    (shapes : List (String × Shape)) → (count : Nat) → Reader Given
  | [], _, s => do return ([], ← closeList s)
  | (_, shape) :: shapes, count, s => do
    match ← nextItem (count = 0) s with
    | .close r =>
      match record.lackingPlace? count with
      | some place => atEnd (.listEnds place record.name record.members.length) closeList r
      | none => return (none :: shapes.map fun _ => none, ← closeList r)
    | .item r =>
      let (v, r) ← shaped shape depth r
      let (given, r) ← recordItems record depth shapes (count + 1) r
      return (some v :: given, r)

def record (record : Record) : Reader Given := fun s =>
  match skipSpace s with
  | [] => failHere .endInValue []
  | '\x7b' :: r => recordMembers record (depthLimit - 1) (r.length + 1) true record.empty r
  | '[' :: r => recordItems record (depthLimit - 1) record.members 0 r
  | s => wrongShape (.record record.name) s

end Read

namespace Record

/-- The members given in a text, or the message about its first fault. -/
def read (r : Record) (text : String) : Except String Given :=
  let s := text.toList
  ((Read.record r s).bind Read.finish).mapError (·.message s)

/-- The members given in a value. -/
def decode (r : Record) (value : Json) : Except ShapeError Given :=
  match value with
  | .object members => do
    let given ← members.foldlM (fun given (key, v) =>
      match r.members.findIdx? (·.1 == key) with
      | some i => do return given.set i (some (← (r.members.getD i (key, .text)).2.check v))
      | none => return given) r.empty
    match r.lacking? given with
    | some member => .error (.missing member)
    | none => .ok given
  | .array items => do
    let given ← (r.members.zip items).mapM fun ((_, shape), v) => do return some (← shape.check v)
    match r.lackingPlace? items.length with
    | some place => .error (.listEnds place r.name r.members.length)
    | none =>
      if r.members.length < items.length then .error (.listGoesOn items.length)
      else .ok (given ++ (r.members.drop items.length).map fun _ => none)
  | v => mismatch v (.record r.name)

end Record

end AppDef.Json
