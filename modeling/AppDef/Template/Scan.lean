import AppDef.Template.Tag

namespace AppDef.Template

inductive Tag where
  | comment
  | value (call : Call)
  | inclusion (call : Call)
  | directive (call : Call)
  | openBlock (call : Call) (names : List String)
  | openDefinition (call : Call)
  | openInclusion (call : Call)
  | otherwise
  | otherwiseIf (call : Call) (names : List String)
  | close (name : String)

/-- A tag, and whether it takes the blanks before and behind it. -/
structure Marked where
  tag : Tag
  trimBefore : Bool
  trimAfter : Bool

inductive Piece where
  /-- Text with its escapes resolved; `isSpace` if only blanks are written. -/
  | text (text : List Char) (isSpace : Bool)
  /-- A tag; `alone` if there is nothing else on its line. -/
  | tag (marked : Marked) (alone : Bool)
  /-- The text of a raw block. -/
  | raw (text : List Char)

def trimMark (s : List Char) : Bool × List Char :=
  match skipSpace s with
  | '~' :: r => (true, skipSpace r)
  | r => (false, r)

/-- The end of a tag: an optional trim mark and the closing braces. -/
def closing (braces : List Char) : Reading Bool := fun s =>
  let (trim, r) := trimMark s
  (after? braces r).map fun r => (trim, r)

def braces (n : Nat) : List Char :=
  List.replicate n '\x7d'

def closed {α : Type} (reading : Reading α) : Reading (α × Bool) := fun s => do
  let (a, r) ← reading s
  let (trim, r) ← closing (braces 2) r
  return ((a, trim), r)

def marked {α : Type} (trimBefore : Bool) (tagOf : α → Tag) (reading : Reading α) :
    Reading Marked := fun s =>
  (closed reading s).map fun ((a, trim), r) => (⟨tagOf a, trimBefore, trim⟩, r)

/-- A value between three braces, the trim marks inside them. -/
def tripleInside : Reading Marked := fun s => do
  let r ← after? ['\x7b'] s
  let (before, r) := trimMark r
  let (call, r) ← valueCall r
  let (trim, r) ← closing (braces 3) r
  return (⟨.value call, before, trim⟩, r)

/-- A value between braces of its own, the trim marks outside them. -/
def tripleOutside (trimBefore : Bool) : Reading Marked := fun s => do
  let (call, r) ← valueCall (skipSpace s)
  let r ← after? (braces 1) (skipSpace r)
  let (trim, r) ← closing (braces 2) r
  return (⟨.value call, trimBefore, trim⟩, r)

/-- A value that is a name, with a sign that it is shown as it is. -/
def plainValue : Reading Call := fun s =>
  match subexpression (depthIn s) s with
  | some (p, r) => some (⟨p, [], []⟩, r)
  | none => (path s).map fun (p, r) => (⟨.path p, [], []⟩, r)

/-- `else` or its sign. -/
def otherwiseWord? (s : List Char) : Option (List Char) :=
  (after? ['e', 'l', 's', 'e'] s).orElse fun _ => after? ['^'] s

def otherwiseTag (trimBefore : Bool) : Reading Marked := fun s => do
  let r ← otherwiseWord? s
  match closing (braces 2) r with
  | some (trim, r) => return (⟨.otherwise, trimBefore, trim⟩, r)
  | none =>
    marked trimBefore (fun (call, names) => .otherwiseIf call names) blockCall (skipSpace r)

/-- A tag behind its opening braces. -/
def tagInside (s : List Char) : Option (Marked × List Char) :=
  let (before, r) := trimMark s
  match r with
  | '#' :: r =>
    match skipSpace r with
    | '*' :: r => marked before (fun (call, _) => .openDefinition call) blockCall (skipSpace r)
    | '>' :: r => marked before .openInclusion inclusionCall (skipSpace r)
    | r => marked before (fun (call, names) => .openBlock call names) blockCall r
  | '/' :: r => marked before .close bodyName (skipSpace r)
  | '*' :: r => marked before (fun (call, _) => .directive call) blockCall (skipSpace r)
  | '>' :: r => marked before .inclusion inclusionCall (skipSpace r)
  | '&' :: r => marked before .value plainValue (skipSpace r)
  | '\x7b' :: r => (tripleInside s).orElse fun _ => tripleOutside before r
  | r => (otherwiseTag before r).orElse fun _ => marked before .value valueCall r

/-- What follows the first place where `text` stands. -/
def behind? (text : List Char) : List Char → Option (List Char)
  | [] => after? text []
  | c :: s => (after? text (c :: s)).orElse fun _ => behind? text s

/-- A comment behind its exclamation mark. Between dashes it may hold closing braces. -/
def commentEnd? (s : List Char) : Option (List Char) :=
  ((after? ['-', '-'] (skipSpace s)).bind (behind? ('-' :: '-' :: braces 2))).orElse fun _ =>
    behind? (braces 2) s

def tag : Reading Marked
  | '\x7b' :: '\x7b' :: '!' :: s => (commentEnd? s).map fun r => (⟨.comment, false, false⟩, r)
  | '\x7b' :: '\x7b' :: s => tagInside s
  | _ => none

def opensTag : List Char → Bool
  | '\x7b' :: '\x7b' :: _ => true
  | _ => false

def opensRaw : List Char → Bool
  | '\x7b' :: '\x7b' :: '\x7b' :: '\x7b' :: _ => true
  | _ => false

/--
Text up to the next place where `stop` holds. One backslash before a tag is dropped: of a single one
the braces behind it are text, of several the tag counts.
-/
def takeText (stop : List Char → Bool) : (fuel : Nat) → List Char → List Char × List Char
  | 0, s => ([], s)
  | _, [] => ([], [])
  | fuel + 1, c :: s =>
    if stop (c :: s) then ([], c :: s)
    else if c = '\\' && opensTag s then
      let width := if opensRaw s then 4 else 2
      let (text, rest) := takeText stop fuel (s.drop width)
      (s.take width ++ text, rest)
    else if c = '\\' && s.head? == some '\\' && opensTag (s.dropWhile (· == '\\')) then
      let (text, rest) := takeText stop fuel (s.dropWhile (· == '\\'))
      (s.takeWhile (· == '\\') ++ text, rest)
    else
      let (text, rest) := takeText stop fuel s
      (c :: text, rest)

def isIndent (c : Char) : Bool :=
  c == ' ' || c == '\t'

def isNewline (c : Char) : Bool :=
  c == '\n' || c == '\r'

def startsLine (source rest : List Char) : Bool :=
  ((source.take (source.length - rest.length)).reverse.dropWhile isIndent).head?.all isNewline

def endsLine (rest : List Char) : Bool :=
  rest.isEmpty || (rest.dropWhile isIndent).head?.any isNewline

/-- A tag from `s` to `rest`, alone on its line or not. -/
def placed (source s rest : List Char) (m : Marked) : Piece :=
  .tag m (startsLine source s && endsLine rest)

/-- A raw block: its opening tag, its text without leading blanks, its closing tag. -/
def rawBlock (source s : List Char) : Option (List Piece × List Char) := do
  let (before, r) := trimMark (s.drop 4)
  let ((call, names), r) ← blockCall r
  let (trim, r) ← closing (braces 4) r
  let opened := placed source s r ⟨.openBlock call names, before, trim⟩
  let (text, e) := takeText opensRaw (r.length + 1) (skipSpace r)
  if !opensRaw e then none
  else
    let (before, r) := trimMark (e.drop 4)
    let r ← after? ['/'] r
    let (name, r) ← identifier (skipSpace r)
    let (trim, r) ← closing (braces 4) r
    return ([opened, .raw text, placed source e r ⟨.close name, before, trim⟩], r)

/-- The pieces of `s`, which is the end of `source`. Each takes at least one character. -/
def piecesOf (source : List Char) : (fuel : Nat) → List Char → Option (List Piece)
  | 0, _ => none
  | _, [] => some []
  | fuel + 1, s =>
    if opensRaw s then do
      let (pieces, r) ← rawBlock source s
      return pieces ++ (← piecesOf source fuel r)
    else if opensTag s then do
      let (m, r) ← tag s
      return placed source s r m :: (← piecesOf source fuel r)
    else do
      let (text, r) := takeText opensTag (s.length + 1) s
      let written := s.take (s.length - r.length)
      return .text text (written.all isSpace) :: (← piecesOf source fuel r)

/-- Text and tags in turn. A backslash before a tag keeps it as text. -/
def pieces (source : List Char) : Option (List Piece) :=
  piecesOf source (source.length + 1) source

end AppDef.Template
