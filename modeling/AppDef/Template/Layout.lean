import AppDef.Template.Scan
import AppDef.Text.Blank

namespace AppDef.Template

/-- What a tag has opened. -/
inductive Opened where
  | block
  | definition
  | inclusion
  deriving DecidableEq, Repr

/-- The helper of a branch and the names that it binds. -/
structure Branch where
  call : Call
  names : List String

/-- An open block; its elements are in reverse. -/
structure Frame where
  opened : Opened
  name : String
  /-- The branches before this one, the latest first. -/
  earlier : List (Branch × List Element)
  /-- The branch that is read, `none` behind an `else`. -/
  branch? : Option Branch
  elements : List Element

/-- The blocks of a chain of branches, each in the place of the one before it. -/
def chain (earlier : List (Branch × List Element)) (inverse : List Element) : List Element :=
  earlier.foldl (fun inverse (b, body) => [.block b.call b.names body inverse]) inverse

def Frame.close (f : Frame) : List Element :=
  let body := f.elements.reverse
  match f.opened, f.branch? with
  | .block, some b => chain ((b, body) :: f.earlier) []
  | .definition, some b => [.definition b.call body]
  | .inclusion, some b => [.inclusion b.call true body]
  | _, none => chain f.earlier body

/-- What was read of a template; the elements outside of all blocks are in reverse. -/
structure Layout where
  frames : List Frame
  elements : List Element
  /-- The last tag takes the blanks behind it. -/
  omitBlanks : Bool
  /-- The last tag stood alone on its line, so the end of that line goes. -/
  omitLineEnd : Bool

namespace Layout

def start : Layout := ⟨[], [], false, false⟩

/-- The elements read at the innermost level, the last one first. -/
def current (l : Layout) : List Element :=
  match l.frames with
  | [] => l.elements
  | f :: _ => f.elements

def withCurrent (l : Layout) (elements : List Element) : Layout :=
  match l.frames with
  | [] => { l with elements }
  | f :: fs => { l with frames := { f with elements } :: fs }

def push (l : Layout) (e : Element) : Layout :=
  l.withCurrent (e :: l.current)

/-- The text read last, changed. -/
def mapLast (f : List Char → List Char) (l : Layout) : Layout :=
  match l.current with
  | .text t :: es => l.withCurrent (.text (String.ofList (f t.toList)) :: es)
  | _ => l

def dropNewline : List Char → List Char
  | '\r' :: '\n' :: s => s
  | '\n' :: s => s
  | s => s

/-- Text as it is shown behind the tags before it. -/
def shown (l : Layout) (text : List Char) : Element :=
  .text (String.ofList
    (if l.omitBlanks then Text.trimStart text
      else if l.omitLineEnd then dropNewline (text.dropWhile isIndent)
      else text))

def addText (l : Layout) (text : List Char) (isSpace : Bool) : Layout :=
  if isSpace && l.omitBlanks then l
  else { l.push (l.shown text) with omitLineEnd := false }

/-- The effect of a tag's trim marks. -/
def trim (l : Layout) (m : Marked) : Layout :=
  { if m.trimBefore then l.mapLast Text.trimEnd else l with omitBlanks := m.trimAfter }

/-- The effect of a tag that stands alone on its line, or does not. -/
def line (l : Layout) (alone : Bool) : Layout :=
  { if alone then l.mapLast (Text.dropEndWhile isIndent) else l with omitLineEnd := alone }

def openFrame (l : Layout) (opened : Opened) (name : String) (branch : Branch) : Layout :=
  { l with frames := ⟨opened, name, [], some branch, []⟩ :: l.frames }

/-- The next branch of the innermost block, which has not come to its `else`. -/
def nextBranch (l : Layout) (branch? : Option Branch) : Option Layout :=
  match l.frames with
  | ⟨.block, name, earlier, some b, elements⟩ :: fs =>
    some { l with frames := ⟨.block, name, (b, elements.reverse) :: earlier, branch?, []⟩ :: fs }
  | _ => none

def close (l : Layout) (name : String) : Option Layout :=
  match l.frames with
  | [] => none
  | f :: fs =>
    if f.name = name then some (f.close.foldl push { l with frames := fs }) else none

/-- The name that closes what a tag opens. -/
def closingName (call : Call) : String :=
  match call.target with
  | .name name => name
  | .path p => p.source
  | _ => ""

def addTag (l : Layout) (m : Marked) (alone : Bool) : Option Layout :=
  let opened (kind : Opened) (call : Call) (names : List String) : Option Layout :=
    some (((l.trim m).line alone).openFrame kind (closingName call) ⟨call, names⟩)
  match m.tag with
  | .comment => some ((l.line alone).push .comment)
  | .value call => some ((l.trim m).push (.value call))
  | .inclusion call => some ({ l.trim m with omitLineEnd := alone }.push (.inclusion call false []))
  | .directive call => some (((l.trim m).line alone).push (.directive call))
  | .openBlock call names => opened .block call names
  | .openDefinition call => opened .definition call []
  | .openInclusion call => opened .inclusion call []
  | .otherwise => ((l.trim m).line alone).nextBranch none
  | .otherwiseIf call names => ((l.trim m).line alone).nextBranch (some ⟨call, names⟩)
  | .close name => ((l.trim m).line alone).close name

def add (l : Layout) : Piece → Option Layout
  | .text text isSpace => some (l.addText text isSpace)
  | .raw text => some (l.push (l.shown text))
  | .tag m alone => l.addTag m alone

end Layout

/-- The elements of a template, if all its tags are well formed and all its blocks closed. -/
def parse (source : List Char) : Option (List Element) := do
  let layout ← (← pieces source).foldlM Layout.add Layout.start
  if layout.frames.isEmpty then some layout.elements.reverse else none

end AppDef.Template
