import AppDef.Json.Parse
import AppDef.Template.Basic
import AppDef.Text.Letters

namespace AppDef.Template

open AppDef.Text

/-- A reading takes its part off the front, or is `none` when the text does not start with such a
part. -/
abbrev Reading (α : Type) := List Char → Option (α × List Char)

def isSpace (c : Char) : Bool :=
  c == ' ' || c == '\t' || c == '\n' || c == '\r'

def skipSpace (s : List Char) : List Char :=
  s.dropWhile isSpace

/-- What follows `text`, if `s` starts with it. -/
def after? : (text s : List Char) → Option (List Char)
  | [], s => some s
  | _ :: _, [] => none
  | t :: text, c :: s => if t = c then after? text s else none

def isNamePart (c : Char) : Bool :=
  isAlphanumeric c || c == '_' || c == '-' || c == '$' || 128 ≤ c.toNat

def startsName (s : List Char) : Bool :=
  s.head?.any isNamePart

/-- A run of at least one name character. -/
def identifier : Reading String := fun s =>
  match s.takeWhile isNamePart with
  | [] => none
  | name => some (String.ofList name, s.dropWhile isNamePart)

def isSeparator (c : Char) : Bool :=
  c == '/' || c == '.'

/-- A name, or any text in brackets. -/
def pathItem : Reading String
  | '[' :: s =>
    match s.dropWhile (· != ']') with
    | ']' :: rest => some (String.ofList (s.takeWhile (· != ']')), rest)
    | _ => none
  | s => identifier s

/-- Further items, each behind a separator. -/
def pathItems : (fuel : Nat) → List Char → List String × List Char
  | 0, s => ([], s)
  | fuel + 1, s =>
    match s with
    | c :: r =>
      if isSeparator c then
        match pathItem r with
        | some (item, rest) =>
          let (items, rest) := pathItems fuel rest
          (item :: items, rest)
        | none => ([], s)
      else ([], s)
    | [] => ([], s)

/-- Leading steps that stay where they are. -/
def skipCurrent : (fuel : Nat) → List Char → List Char
  | 0, s => s
  | fuel + 1, s =>
    match s with
    | '.' :: '/' :: r => skipCurrent fuel r
    | 't' :: 'h' :: 'i' :: 's' :: c :: r => if isSeparator c then skipCurrent fuel r else s
    | _ => s

/-- How many steps lead up, and what follows them. -/
def stepsUp : List Char → Nat × List Char
  | '.' :: '.' :: c :: s =>
    if isSeparator c then ((stepsUp s).1 + 1, (stepsUp s).2) else (0, '.' :: '.' :: c :: s)
  | s => (0, s)

def namedSegments (items : List String) : List Segment :=
  (items.filter (· != "this")).map .named

def path : Reading Path := fun s => do
  let rest := skipCurrent s.length s
  let (isRoot, rest) :=
    match rest with
    | '@' :: 'r' :: 'o' :: 'o' :: 't' :: c :: r => if isSeparator c then (true, r) else (false, rest)
    | _ => (false, rest)
  let (isLocal, rest) :=
    match rest with
    | '@' :: r => (true, r)
    | _ => (false, rest)
  let (ups, rest) := stepsUp rest
  let (item, rest) ← pathItem rest
  let (items, rest) := pathItems rest.length rest
  let segments := (if isRoot then [.root] else []) ++ (if isLocal then [.local] else []) ++
    List.replicate ups .up ++ namedSegments (item :: items)
  return (⟨String.ofList (s.take (s.length - rest.length)), segments⟩, rest)

/-- The text behind an opening quote, and what follows the closing one. -/
def quotedInner (quote : Char) : (fuel : Nat) → Reading (List Char)
  | 0, _ => none
  | fuel + 1, s =>
    match s with
    | [] => none
    | '\\' :: 'u' :: a :: b :: c :: d :: r =>
      if [a, b, c, d].all fun x => (hexValue? x).isSome then
        (quotedInner quote fuel r).map fun (cs, r) => ('\\' :: 'u' :: a :: b :: c :: d :: cs, r)
      else none
    | '\\' :: c :: r =>
      if c == quote || ['\\', '/', 'b', 'f', 'n', 'r', 't'].contains c then
        (quotedInner quote fuel r).map fun (cs, r) => ('\\' :: c :: cs, r)
      else none
    | c :: r =>
      if c == quote then some ([], r)
      else if c == '\\' then none
      else (quotedInner quote fuel r).map fun (cs, r) => (c :: cs, r)

/-- The same text as it stands between double quotes. -/
def requote : List Char → List Char
  | '\\' :: '\'' :: s => '\'' :: requote s
  | '"' :: s => '\\' :: '"' :: requote s
  | c :: s => c :: requote s
  | [] => []

/-- The JSON text of a literal between quotes. -/
def quotedLiteral : Reading (List Char)
  | '"' :: s => (quotedInner '"' s.length s).map fun (cs, r) => ('"' :: cs ++ ['"'], r)
  | '\'' :: s => (quotedInner '\'' s.length s).map fun (cs, r) => ('"' :: requote cs ++ ['"'], r)
  | _ => none

def ofWord (word : List Char) (s : List Char) : Option (List Char) :=
  (after? word s).bind fun r => if startsName r then none else some r

/-- A number ends where no name goes on. -/
def numberEnd? (s : List Char) : Option (List Char) :=
  let s := (after? ['-'] s).getD s
  let digits := s.takeWhile isDigit
  if digits.isEmpty then none
  else
    let r := s.dropWhile isDigit
    let r := (after? ['.'] r).getD r
    let r := r.dropWhile isDigit
    let r :=
      match r with
      | 'E' :: t =>
        let t := (after? ['-'] t).getD t
        if (t.takeWhile isDigit).isEmpty then r else t.dropWhile isDigit
      | _ => r
    if startsName r then none else some r

mutual

/-- What follows a literal. Lists and objects may hold others. -/
def literalEnd? : (fuel : Nat) → List Char → Option (List Char)
  | 0, _ => none
  | fuel + 1, s =>
    match s with
    | '"' :: _ => (quotedLiteral s).map (·.2)
    | '\'' :: _ => (quotedLiteral s).map (·.2)
    | '[' :: r =>
      let r := skipSpace r
      let r := ((literalEnd? fuel r).map skipSpace).getD r
      listEnd? fuel r
    | '\x7b' :: r =>
      let r := skipSpace r
      let r := ((memberEnd? fuel r).map skipSpace).getD r
      objectEnd? fuel r
    | _ =>
      ((numberEnd? s).orElse fun _ => ofWord "null".toList s).orElse fun _ =>
        (ofWord "true".toList s).orElse fun _ => ofWord "false".toList s

def listEnd? : (fuel : Nat) → List Char → Option (List Char)
  | 0, _ => none
  | fuel + 1, s =>
    match s with
    | ']' :: r => some r
    | ',' :: r => do listEnd? fuel (skipSpace (← literalEnd? fuel (skipSpace r)))
    | _ => none

def memberEnd? : (fuel : Nat) → List Char → Option (List Char)
  | 0, _ => none
  | fuel + 1, s => do
    let (_, r) ← quotedLiteral s
    let r ← after? [':'] (skipSpace r)
    literalEnd? fuel (skipSpace r)

def objectEnd? : (fuel : Nat) → List Char → Option (List Char)
  | 0, _ => none
  | fuel + 1, s =>
    match s with
    | '\x7d' :: r => some r
    | ',' :: r => do objectEnd? fuel (skipSpace (← memberEnd? fuel (skipSpace r)))
    | _ => none

end

/-- A literal is read as JSON; one between single quotes is quoted anew before. -/
def literal (s : List Char) (rest : List Char) : Option Json :=
  let text :=
    match s with
    | '\'' :: _ => ((quotedLiteral s).map (·.1)).getD []
    | _ => s.take (s.length - rest.length)
  (Json.parse (String.ofList text)).toOption

/-- `as` and `else` are no parameters, unless a name follows. -/
def isKeyword (s : List Char) : Bool :=
  let ends (r? : Option (List Char)) : Bool := r?.any fun r => !startsName (skipSpace r)
  ends (after? ['a', 's'] s) || ends (after? ['e', 'l', 's', 'e'] s)

inductive Given where
  | argument (param : Param)
  | option (name : String) (param : Param)

def callOf (target : Param) (given : List Given) : Param :=
  .call target
    (given.filterMap fun | .argument p => some p | .option _ _ => none)
    (Members.ofList (given.filterMap fun | .argument _ => none | .option name p => some (name, p)))

mutual

def param : (fuel : Nat) → Reading Param
  | 0, _ => none
  | fuel + 1, s =>
    if isKeyword s then none
    else
      match literalEnd? (s.length + 1) s with
      | some rest => (literal s rest).map fun v => (.literal v, rest)
      | none =>
        match path s with
        | some (p, rest) => some (.path p, rest)
        | none => subexpression fuel s

/-- A helper in parentheses with at least one parameter, or a path in parentheses. -/
def subexpression : (fuel : Nat) → Reading Param
  | 0, _ => none
  | fuel + 1, s => do
    let r := skipSpace (← after? ['('] s)
    let close (target : Param) (given : List Given) (r : List Char) : Option (Param × List Char) :=
      (after? [')'] (skipSpace r)).map fun r => (callOf target given, r)
    let helper := do
      let (name, r) ← identifier r
      let (given, r) := parameters fuel r
      if given.isEmpty then none else close (.name name) given r
    helper.orElse fun _ => do
      let (p, r) ← path r
      close (.path p) [] r

def option? : (fuel : Nat) → Reading Given
  | 0, _ => none
  | fuel + 1, s => do
    let (name, r) ← identifier s
    let r ← after? ['='] (skipSpace r)
    let (p, r) ← param fuel (skipSpace r)
    return (.option name p, r)

/-- Arguments and options as far as they go. -/
def parameters : (fuel : Nat) → List Char → List Given × List Char
  | 0, s => ([], s)
  | fuel + 1, s =>
    let r := skipSpace s
    match (option? fuel r).orElse fun _ => (param fuel r).map fun (p, r) => (.argument p, r) with
    | some (given, r) =>
      let (more, r) := parameters fuel r
      (given :: more, r)
    | none => ([], s)

end

/-- Enough for any nesting within `s`. -/
def depthIn (s : List Char) : Nat :=
  4 * s.length + 4

def Param.toCall : Param → Call
  | .call target args options => ⟨target, args, options⟩
  | target => ⟨target, [], []⟩

/-- A helper with parameters, or a path or a subexpression alone. -/
def valueCall : Reading Call := fun s =>
  let helper := do
    let (name, r) ← identifier s
    let (given, r) := parameters (depthIn r) r
    if given.isEmpty then none else some ((callOf (.name name) given).toCall, r)
  helper.orElse fun _ =>
    match subexpression (depthIn s) s with
    | some (p, r) => some (⟨p, [], []⟩, r)
    | none => (path s).map fun (p, r) => (⟨.path p, [], []⟩, r)

/-- The names that a block binds: `as |value|` or `as |value key|`. -/
def blockNames : Reading (List String) := fun s => do
  let r ← after? ['a', 's'] s
  let r ← after? ['|'] (skipSpace r)
  let (first, r) ← identifier (skipSpace r)
  match identifier (skipSpace r) with
  | some (second, r) => do return ([first, second], ← after? ['|'] (skipSpace r))
  | none => do return ([first], ← after? ['|'] (skipSpace r))

/-- A helper that opens a block, and the names it binds. -/
def blockCall : Reading (Call × List String) := fun s => do
  let (name, r) ← identifier s
  let (given, r) := parameters (depthIn r) r
  let call := (callOf (.name name) given).toCall
  match blockNames (skipSpace r) with
  | some (names, r) => return ((call, names), r)
  | none => return ((call, []), r)

def isBodyNamePart (c : Char) : Bool :=
  isNamePart c || c == '/' || c == '.'

def bodyName : Reading String := fun s =>
  match s.takeWhile isBodyNamePart with
  | [] => none
  | name => some (String.ofList name, s.dropWhile isBodyNamePart)

/-- The body to include and what it is given. -/
def inclusionCall : Reading Call := fun s => do
  let (target, r) ← ((bodyName s).map fun (name, r) => (Param.name name, r)).orElse fun _ =>
    ((path s).map fun (p, r) => (Param.path p, r)).orElse fun _ => subexpression (depthIn s) s
  let (given, r) := parameters (depthIn r) r
  return ((callOf target given).toCall, r)

end AppDef.Template
