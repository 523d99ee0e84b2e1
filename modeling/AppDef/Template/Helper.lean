import AppDef.Template.Format
import AppDef.Text.Letters

namespace AppDef.Template

/-- Why a template was not rendered. -/
inductive Fault where
  | refused
  /-- A number was to be written with more than `mostPlaces` places. -/
  | tooManyPlaces
  deriving DecidableEq, Repr

/-- A helper that comes to a value. One that is given too little, or the wrong kind of value, cannot
be carried out. -/
inductive ValueHelper where
  | lookup
  | len
  | eq
  | ne
  | gt
  | gte
  | lt
  | lte
  | and
  | or
  | not
  | fixed
  | currency
  | percent
  deriving DecidableEq, Repr

inductive Helper where
  | conditional (positive : Bool)
  | each
  | scoped
  | raw
  | log
  | value (helper : ValueHelper)
  deriving DecidableEq, Repr

def Helper.named? : String → Option Helper
  | "if" => some (.conditional true)
  | "unless" => some (.conditional false)
  | "each" => some .each
  | "with" => some .scoped
  | "raw" => some .raw
  | "log" => some .log
  | "lookup" => some (.value .lookup)
  | "len" => some (.value .len)
  | "eq" => some (.value .eq)
  | "ne" => some (.value .ne)
  | "gt" => some (.value .gt)
  | "gte" => some (.value .gte)
  | "lt" => some (.value .lt)
  | "lte" => some (.value .lte)
  | "and" => some (.value .and)
  | "or" => some (.value .or)
  | "not" => some (.value .not)
  | "fixed" => some (.value .fixed)
  | "currency" => some (.value .currency)
  | "percent" => some (.value .percent)
  | _ => none

/-- The least number that has all bits of a mantissa. -/
def leastNormal : Float :=
  AppDef.Number.ofBits false (Nat.pow 2 52)

/-- Zero counts as true only if `zero` says so, and the tiniest numbers count as zero. -/
def truthy (zero : Bool) : Json → Bool
  | .null => false
  | .bool b => b
  | .number n =>
    let x := n.toFloat
    if zero then !x.isNaN else leastNormal ≤ x.abs && x.isFinite
  | .text s => !s.isEmpty
  | .array items => !items.isEmpty
  | .object members => !members.isEmpty

def compareNumbers? : Json.Number → Json.Number → Option Ordering
  | .whole a, .whole b => some (compare a b)
  | a, b => AppDef.Number.compare? a.toFloat b.toFloat

/-- Values of one kind are compared, and numbers with texts that write a number. -/
def order? : Json → Json → Option Ordering
  | .number a, .number b => compareNumbers? a b
  | .text a, .text b => some (compare a b)
  | .bool a, .bool b => some (compare a b)
  | .number a, .text b => (AppDef.Number.read? b).bind (AppDef.Number.compare? a.toFloat)
  | .text a, .number b => (AppDef.Number.read? a).bind fun x => AppDef.Number.compare? x b.toFloat
  | _, _ => none

def count : Json → Nat
  | .array items => items.length
  | .object members => members.length
  | .text s => s.utf8ByteSize
  | _ => 0

/-- The item at a place, or the member of a name. -/
def itemAt : Json → Json → Json
  | .array items, place => (place.asNat?.bind (items[·]?)).getD .null
  | .object members, .text key => (members.lookup key).getD .null
  | _, _ => .null

/-- A number in a format, any other value as it is displayed. -/
def formatted (format : Float → String) (v : Json) : Json :=
  .text (((numberOf? v).map format).getD v.display)

def ValueHelper.apply : ValueHelper → List Json → Except Fault Json
  | .lookup, a :: b :: _ => .ok (itemAt a b)
  | .len, a :: _ => .ok (.ofNat (count a))
  | .eq, a :: b :: _ => .ok (.bool (a == b))
  | .ne, a :: b :: _ => .ok (.bool (a != b))
  | .gt, a :: b :: _ => .ok (.bool ((order? a b).any (·.isGT)))
  | .gte, a :: b :: _ => .ok (.bool ((order? a b).any (·.isGE)))
  | .lt, a :: b :: _ => .ok (.bool ((order? a b).any (·.isLT)))
  | .lte, a :: b :: _ => .ok (.bool ((order? a b).any (·.isLE)))
  | .and, a :: b :: _ => .ok (.bool (truthy false a && truthy false b))
  | .or, a :: b :: _ => .ok (.bool (truthy false a || truthy false b))
  | .not, a :: _ => .ok (.bool (!truthy false a))
  | .fixed, a :: b :: _ =>
    match b.asNat?, numberOf? a with
    | none, _ => .error .refused
    | some places, some x =>
      if mostPlaces < places then .error .tooManyPlaces
      else .ok (.text (AppDef.Number.fixed places x))
    | some _, none => .ok (.text a.display)
  | .currency, a :: _ => .ok (formatted Template.currency a)
  | .percent, a :: _ => .ok (formatted Template.percent a)
  | _, _ => .error .refused

/-- What a log may be marked as; an unmarked one is an `info`. -/
def logLevels : List String :=
  ["error", "warn", "info", "debug", "trace"]

/-- The letter case of a level does not count, and one that is no text is passed over. -/
def isLogged (options : List (String × Json)) : Bool :=
  match options.lookup "level" with
  | some (.text level) => logLevels.any (Text.sameLetters level)
  | _ => true

/-- The value of a helper where no block belongs to it. -/
def Helper.inlineValue (h : Helper) (args : List Json) (options : List (String × Json)) :
    Except Fault Json :=
  match h, args with
  | .value h, args => h.apply args
  | .raw, _ => .ok (.text "")
  | .log, _ => if isLogged options then .ok (.text "") else .error .refused
  | _, [] => .error .refused
  | _, _ => .ok (.text "")

mutual

/-- How a value stands in rendered text. -/
def shownValue : Json → String
  | .null => ""
  | .bool b => toString b
  | .number n => n.print
  | .text s => s
  | .array [] => "[]"
  | .array (v :: vs) => "[" ++ shownValue v ++ shownValues vs ++ "]"
  | .object _ => "[object]"

def shownValues : List Json → String
  | [] => ""
  | v :: vs => ", " ++ shownValue v ++ shownValues vs

end

end AppDef.Template
