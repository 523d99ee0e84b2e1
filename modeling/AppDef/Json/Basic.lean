import AppDef.Number.Binary

namespace AppDef

/-- A whole number of at most 64 bits as it was written, or a float. -/
inductive Json.Number where
  | whole (value : Int)
  | float (value : Float)
  deriving BEq, Inhabited

/-- Whole and fractional numbers are kept apart, and an object keeps the order of its members. -/
inductive Json where
  | null
  | bool (value : Bool)
  | number (value : Json.Number)
  | text (value : String)
  | array (items : List Json)
  | object (members : List (String × Json))
  deriving Inhabited

namespace Json

def Number.toFloat : Number → Float
  | .whole i => AppDef.Number.ofInt i
  | .float x => x

mutual

/-- Equality of values, up to the order of the members of objects. -/
def same : Json → Json → Bool
  | .null, .null => true
  | .bool a, .bool b => a == b
  | .number a, .number b => a == b
  | .text a, .text b => a == b
  | .array a, .array b => sameItems a b
  | .object a, .object b => a.length == b.length && sameMembers a b
  | _, _ => false

def sameItems : List Json → List Json → Bool
  | [], [] => true
  | a :: as, b :: bs => same a b && sameItems as bs
  | _, _ => false

/-- Each member of the first list stands in the second one. -/
def sameMembers : List (String × Json) → List (String × Json) → Bool
  | [], _ => true
  | (k, a) :: as, bs =>
    (match bs.lookup k with
      | some b => same a b
      | none => false) && sameMembers as bs

end

instance : BEq Json := ⟨same⟩

def ofNat (n : Nat) : Json :=
  .number (.whole n)

def ofFloat (x : Float) : Json :=
  .number (.float x)

/-- A whole number below nine quadrillion as an integer, any other as a float; no number is null. -/
def ofComputed (x : Float) : Json :=
  match AppDef.Number.whole? x with
  | some i => .number (.whole i)
  | none => if x.isFinite then ofFloat x else .null

def asText? : Json → Option String
  | .text s => some s
  | _ => none

def asBool? : Json → Option Bool
  | .bool b => some b
  | _ => none

def asArray? : Json → Option (List Json)
  | .array items => some items
  | _ => none

def asObject? : Json → Option (List (String × Json))
  | .object members => some members
  | _ => none

def asNat? : Json → Option Nat
  | .number (.whole i) => i.toNat?
  | _ => none

/-- The member of an object called `key`. Nothing else has members. -/
def member? (key : String) : Json → Option Json
  | .object members => members.lookup key
  | _ => none

end Json

namespace Members

variable {α : Type}

/-- A new member goes to the end, a known one keeps its place and takes the new value. -/
def insert (key : String) (value : α) : List (String × α) → List (String × α)
  | [] => [(key, value)]
  | (k, v) :: rest => if k = key then (k, value) :: rest else (k, v) :: insert key value rest

def ofList (members : List (String × α)) : List (String × α) :=
  members.foldl (fun acc m => insert m.1 m.2 acc) []

/-- The members without `key`. The last member takes the place of the removed one. -/
def swapRemove (key : String) (members : List (String × α)) : List (String × α) :=
  match members.findIdx? (·.1 == key), members.getLast? with
  | some i, some last => (members.set i last).dropLast
  | _, _ => members

end Members

end AppDef
