import AppDef.Text.Letters

namespace AppDef

inductive RenderFormat where
  | text
  | json
  deriving DecidableEq, Repr, Inhabited

/-- What is asked of the command line. Every parameter is given by name, as `--name value` or as
`--name=value`. -/
inductive Command where
  | check (doc : String)
  | render (doc : String) (values : Option String) (format : RenderFormat)
  | eval (expr : String) (values : Option String) (isGuard : Bool)
  | run (doc : String) (values config : Option String) (verbose : Bool)
  | submit (doc values : String) (config : Option String)
  | prompt (input : String)
  | generate (input response : String)
  deriving DecidableEq, Repr, Inhabited

inductive ParameterKind where
  | text
  /-- A path is not empty. -/
  | path
  | choice (allowed : List String)
  | flag
  deriving DecidableEq, Repr

structure Parameter where
  names : List String
  kind : ParameterKind
  required : Bool

/-- What stands on the command line instead of a command. -/
inductive Usage where
  | wrong
  | help
  | version
  deriving DecidableEq, Repr

namespace Command

/-- The parameters that were given, by their first name. -/
abbrev Given := List (String × String)

def accepts (kind : ParameterKind) (value : String) : Bool :=
  match kind with
  | .text => true
  | .path => !value.isEmpty
  | .choice allowed => allowed.contains value
  | .flag => false

/-- Words that begin with a hyphen are not taken as values. -/
def isOption (word : String) : Bool :=
  match word.toList with
  | '-' :: _ :: _ => true
  | _ => false

def isHelp (word : String) : Bool :=
  word == "--help" || word.toList.take 2 == "-h".toList

def isVersion (word : String) : Bool :=
  word == "--version" || word.toList.take 2 == "-V".toList

/-- The name in a word with two hyphens, and the value behind its equals sign. -/
def named? (word : String) : Option (String × Option String) :=
  match word.toList with
  | '-' :: '-' :: rest =>
    let value := rest.dropWhile (· ≠ '=')
    some (String.ofList (rest.takeWhile (· ≠ '=')), value.tail?.map String.ofList)
  | _ => none

def give (p : Parameter) (value : String) (given : Given) : Except Usage Given :=
  let name := p.names.headD ""
  if (given.lookup name).isSome then .error .wrong else .ok (given ++ [(name, value)])

/-- What has been read of a command line: the parameter that waits for its value, and whether two
hyphens alone have put an end to the parameters. -/
structure Reading where
  given : Given
  pending : Option Parameter
  ended : Bool

/-- A value for a parameter. -/
def take (r : Reading) (p : Parameter) (value : String) : Except Usage Reading := do
  if accepts p.kind value then return { r with given := ← give p value r.given, pending := none }
  else .error .wrong

/-- A word that names a parameter, perhaps with its value. -/
def readName (known : List Parameter) (r : Reading) (word : String) : Except Usage Reading :=
  match named? word with
  | none => .error .wrong
  | some (name, value?) =>
    match known.find? (·.names.contains name), value? with
    | none, _ => .error .wrong
    | some p, some value => take r p value
    | some p, none =>
      if p.kind = .flag then (give p "" r.given).map fun given => { r with given }
      else .ok { r with pending := some p }

def readWord (known : List Parameter) (r : Reading) (word : String) : Except Usage Reading :=
  match r.pending with
  | some p => if isOption word then .error .wrong else take r p word
  | none =>
    if r.ended then .error .wrong
    else if word = "--" then .ok { r with ended := true }
    else if isHelp word then .error .help
    else readName known r word

/-- The parameters in the words behind the name of a command. -/
def parameters (known : List Parameter) (words : List String) : Except Usage Given := do
  let r ← words.foldlM (readWord known) ⟨[], none, false⟩
  if r.pending.isNone then return r.given else .error .wrong

/-- The parameters of a command, none of the required ones left out. -/
def complete (known : List Parameter) (words : List String) : Except Usage Given := do
  let given ← parameters known words
  if known.all fun p => !p.required || (given.lookup (p.names.headD "")).isSome then return given
  else .error .wrong

def docParameter : Parameter := ⟨["doc"], .path, true⟩

def valuesParameter (required : Bool) : Parameter := ⟨["values"], .path, required⟩

def configParameter : Parameter := ⟨["config"], .path, false⟩

def inputParameter : Parameter := ⟨["input"], .text, true⟩

def formatOf : Option String → RenderFormat
  | some "json" => .json
  | _ => .text

def ofNamed (name : String) (words : List String) : Except Usage Command := do
  match name with
  | "check" =>
    let given ← complete [docParameter] words
    return .check ((given.lookup "doc").getD "")
  | "render" =>
    let format : Parameter := ⟨["format"], .choice ["text", "json"], false⟩
    let given ← complete [docParameter, valuesParameter false, format] words
    return .render ((given.lookup "doc").getD "") (given.lookup "values")
      (formatOf (given.lookup "format"))
  | "eval" =>
    let given ← complete
      [⟨["expr"], .text, true⟩, valuesParameter false, ⟨["guard"], .flag, false⟩] words
    return .eval ((given.lookup "expr").getD "") (given.lookup "values")
      (given.lookup "guard").isSome
  | "run" =>
    let given ← complete [docParameter, valuesParameter false, configParameter,
      ⟨["verbose", "debug"], .flag, false⟩] words
    return .run ((given.lookup "doc").getD "") (given.lookup "values") (given.lookup "config")
      (given.lookup "verbose").isSome
  | "submit" =>
    let given ← complete [docParameter, valuesParameter true, configParameter] words
    return .submit ((given.lookup "doc").getD "") ((given.lookup "values").getD "")
      (given.lookup "config")
  | "prompt" =>
    let given ← complete [inputParameter] words
    return .prompt ((given.lookup "input").getD "")
  | "generate" =>
    let given ← complete [inputParameter, ⟨["response"], .path, true⟩] words
    return .generate ((given.lookup "input").getD "") ((given.lookup "response").getD "")
  | _ => .error .wrong

/-- The command in the words of a command line. -/
def read (words : List String) : Except Usage Command :=
  match words with
  | [] => .error .wrong
  | word :: rest =>
    if isHelp word || word == "help" then .error .help
    else if isVersion word then .error .version
    else ofNamed word rest

end Command

end AppDef
