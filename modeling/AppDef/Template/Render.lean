import AppDef.Template.Layout
import AppDef.Template.Scope

namespace AppDef.Template

/-- The bodies that were defined so far. -/
abbrev Bodies := Dict (List Element)

/-- A rendering may define bodies for what comes after it. -/
abbrev Render (α : Type) := StateT Bodies (Except Fault) α

def fail {α : Type} (fault : Fault) : Render α :=
  fun _ => .error fault

/-- The name that a parameter is written with; what a call comes to is not written. -/
def Param.written? : Param → Option String
  | .name given => some given
  | .path p => some p.source
  | .literal v => some (shownValue v)
  | .call .. => none

/-- What a parameter of that value is called when it names a helper or a body. -/
def Param.nameBy (value : Except Fault (Option Json)) (p : Param) : Except Fault String :=
  match p.written? with
  | some text => .ok text
  | none => value.map fun v => shownValue (v.getD .null)

mutual

/-- The value of a parameter. A call evaluates all that it is given, its options too, before its
helper is looked for. -/
def evalParam (s : Scope) : Param → Except Fault (Option Json)
  | .name _ => .ok none
  | .path p => s.resolve p.segments
  | .literal v => .ok (some v)
  | .call target args options => do
    let name ← target.nameBy (evalParam s target)
    let args ← evalParams s args
    let options ← evalOptions s options
    match Helper.named? name with
    | some h => return some (← h.inlineValue args options)
    | none => .error .refused

def evalParams (s : Scope) : List Param → Except Fault (List Json)
  | [] => .ok []
  | p :: ps => do
    let v ← evalParam s p
    return v.getD .null :: (← evalParams s ps)

/-- Options are evaluated in the order in which they are written. The language leaves the order
open; it decides only which of several faults is met first. -/
def evalOptions (s : Scope) : List (String × Param) → Except Fault (List (String × Json))
  | [] => .ok []
  | (name, p) :: options => do
    let v ← evalParam s p
    return (name, v.getD .null) :: (← evalOptions s options)

end

def paramName (s : Scope) (p : Param) : Except Fault String :=
  p.nameBy (evalParam s p)

/-- A helper and all that a call gives it. -/
structure Invocation where
  helper : Helper
  args : List Json
  options : List (String × Json)

def Invocation.value (i : Invocation) : Except Fault Json :=
  i.helper.inlineValue i.args i.options

def Call.invoke (s : Scope) (call : Call) : Except Fault Invocation := do
  let name ← paramName s call.target
  let args ← evalParams s call.args
  let options ← evalOptions s call.options
  match Helper.named? name with
  | some helper => return ⟨helper, args, options⟩
  | none => .error .refused

/-- A name alone is a path, unless there is a helper of that name. -/
def renderValue (s : Scope) (call : Call) : Except Fault String := do
  let name ← paramName s call.target
  if call.isNameOnly && (Helper.named? name).isNone then
    return shownValue ((← evalParam s call.target).getD .null)
  else return shownValue (← (← call.invoke s).value)

/-- The items that a block repeats over, with what is known of each step. -/
def steps (v : Json) : List Block :=
  let place (key : String) (i count : Nat) (extra : List (String × Json)) (item : Json) : Block :=
    ⟨item, [], extra ++ [("first", .bool (i == 0)), ("last", .bool (i + 1 == count)),
      (key, .ofNat i)]⟩
  match v with
  | .array items => items.zipIdx.map fun (item, i) => place "index" i items.length [] item
  | .object members => members.zipIdx.map fun ((key, item), i) =>
    place "index" i members.length [("key", .text key)] item
  | _ => []

/-- The key of a step: of a member its name, of an item its place. -/
def Block.key (b : Block) : Json :=
  ((b.locals.lookup "key").orElse fun _ => b.locals.lookup "index").getD .null

/-- A block with the names that it binds to its value and its key. -/
def Block.bind (b : Block) : List String → Block
  | [] => b
  | [value] => { b with names := [(value, b.value)] }
  | value :: key :: _ => { b with names := [(key, b.key), (value, b.value)] }

/-- Options laid over the members of a value. -/
def mergeOptions (base : Json) (options : List (String × Json)) : Json :=
  .object (options.foldl (fun ms (k, v) => Members.insert k v ms) (base.asObject?.getD []))

/-- The scope of an included body. -/
def inclusionScope (s : Scope) (call : Call) : Except Fault Scope := do
  let args ← call.args.mapM (evalParam s)
  let options ← evalOptions s call.options
  let isPath := match call.args with
    | .path _ :: _ => true
    | _ => false
  let inner? := args.head?.bind id
  if options.isEmpty then
    return match isPath, inner? with
      | true, some v => { s with blocks := [⟨v, [], []⟩] }
      | _, _ => s
  else
    let base := if call.args.isEmpty then s.value else inner?.getD .null
    return { s with blocks := [⟨mergeOptions base options, [], []⟩] }

/-- The name under which an included body finds the one that was brought along. -/
def ownBodyName : String := "@partial-block"

/-- How an included body is rendered. -/
abbrev Include := Scope → List Element → Render String

/-- The bodies with that one brought along; it is forgotten afterwards. -/
def withOwnBody (body? : Option (List Element)) (r : Render String) : Render String := do
  match body? with
  | none => r
  | some body =>
    let before := (← get).get? ownBodyName
    modify (·.insert ownBodyName body)
    let text ← r
    modify fun bodies =>
      match before with
      | some body => bodies.insert ownBodyName body
      | none => bodies.erase ownBodyName
    return text

def renderInclusion (included : Include) (s : Scope) (name : String)
    (own? : Option (List Element)) : Render String := do
  match ((← get).get? name).orElse fun _ => own? with
  | some body => withOwnBody own? (included s body)
  | none => fail .refused

/-- The name of a definition. -/
def definedName (s : Scope) (call : Call) : Except Fault String := do
  let kind ← paramName s call.target
  let args ← evalParams s call.args
  let _ ← evalOptions s call.options
  match kind, args with
  | "inline", .text name :: _ => return name
  | _, _ => .error .refused

/-- What a block is to render, in turn: a branch in a scope. -/
inductive Task where
  | body (scope : Scope)
  | inverse (scope : Scope)
  | text (text : String)

/-- What a helper makes of the block it opens. -/
def Invocation.tasks (s : Scope) (names : List String) (i : Invocation) :
    Except Fault (List Task) := do
  match i.helper, i.args with
  | .value h, args => return [.text (shownValue (← h.apply args))]
  | .log, _ => if isLogged i.options then return [] else .error .refused
  | .raw, _ => return [.body s]
  | _, [] => .error .refused
  | .conditional positive, v :: _ =>
    let zero := ((i.options.lookup "includeZero").bind Json.asBool?).getD false
    return [if truthy zero v == positive then .body s else .inverse s]
  | .each, v :: _ =>
    match steps v with
    | [] => return [.inverse s]
    | blocks => return blocks.map fun b => .body (s.enter (b.bind names))
  | .scoped, v :: _ =>
    if !truthy false v then return [.inverse s]
    else
      let block : Block := ⟨v, [], []⟩
      return [.body (s.enter (block.bind (names.take 1)))]

def tasks (s : Scope) (call : Call) (names : List String) : Except Fault (List Task) := do
  (← call.invoke s).tasks s names

/-- Definitions are made by an inclusion before it looks for its body. -/
def Element.isDefinition : Element → Bool
  | .definition .. | .directive _ => true
  | _ => false

mutual

def renderElement (included : Include) (s : Scope) : Element → Render String
  | .text t => pure t
  | .comment => pure ""
  | .value call => (renderValue s call : Except Fault String)
  | .block call names body inverse => do
    let todo ← (tasks s call names : Except Fault (List Task))
    todo.foldlM (fun done task => do
      let text ← match task with
        | .text t => pure t
        | .body inner => renderAll included inner body
        | .inverse outer => renderAll included outer inverse
      return done ++ text) ""
  | .definition call body => do
    let name ← (definedName s call : Except Fault String)
    modify (·.insert name body)
    return ""
  | .directive call => do
    let _ ← (definedName s call : Except Fault String)
    fail .refused
  | .inclusion call own body => do
    let name ← (paramName s call.target : Except Fault String)
    let inner ← (inclusionScope s call : Except Fault Scope)
    if own then
      renderDefinitions included s body
    renderInclusion included inner name (if own then some body else none)

def renderAll (included : Include) (s : Scope) : List Element → Render String
  | [] => pure ""
  | e :: es => do
    let text ← renderElement included s e
    return text ++ (← renderAll included s es)

def renderDefinitions (included : Include) (s : Scope) : List Element → Render Unit
  | [] => pure ()
  | e :: es => do
    if e.isDefinition then
      let _ ← renderElement included s e
    renderDefinitions included s es

end

/-- How deep inclusions nest before they are refused. The language sets no bound: inclusions without
an end exhaust the stack, which is not modelled. -/
def inclusionDepth : Nat := 1000

def includedWithin : (depth : Nat) → Include
  | 0 => fun _ _ => fail .refused
  | depth + 1 => renderAll (includedWithin depth)

/-- Values are shown as they are, without escapes. -/
def render (elements : List Element) (data : Json) : Except Fault String :=
  ((renderAll (includedWithin inclusionDepth) (Scope.ofData data) elements).run {}).map (·.1)

end AppDef.Template
