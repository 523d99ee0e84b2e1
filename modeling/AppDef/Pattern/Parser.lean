import AppDef.Pattern.Syntax
import AppDef.Text.Blank
import AppDef.Text.Letters
import AppDef.Unicode.Attribute
import AppDef.Unicode.Category

namespace AppDef.Pattern

open AppDef.Text AppDef.Unicode

/-- What is left of a source, and what was read so far that matters later on. -/
structure Cursor where
  rest : List Char
  place : Place
  ignoreSpace : Bool
  groupNames : List (String × Span)

namespace Cursor

/-- Past the next character. -/
def bump (c : Cursor) : Cursor :=
  match c.rest with
  | [] => c
  | d :: rest => { c with rest, place := c.place.next d }

def bumps : (count : Nat) → Cursor → Cursor
  | 0, c => c
  | count + 1, c => bumps count c.bump

/-- The span of the next character. -/
def charSpan (c : Cursor) : Span := ⟨c.place, c.bump.place⟩

/-- Past ignored blanks and comments; `fuel` is the length of the rest. -/
def skipIgnored : (fuel : Nat) → (inComment : Bool) → Cursor → Cursor
  | 0, _, c => c
  | fuel + 1, inComment, c =>
    match c.rest with
    | [] => c
    | d :: _ =>
      if inComment then skipIgnored fuel (d != '\n') c.bump
      else if isBlank d then skipIgnored fuel false c.bump
      else if d = '#' then skipIgnored fuel true c.bump
      else c

def skipSpace (c : Cursor) : Cursor :=
  if c.ignoreSpace then skipIgnored c.rest.length false c else c

/-- The character behind the next one. -/
def peek? (c : Cursor) : Option Char :=
  c.rest.tail.head?

/-- Past blanks. A number sign among them is passed over like a blank, once. -/
def pastBlanks (text : List Char) : List Char :=
  match text.dropWhile isBlank with
  | '#' :: r => r.dropWhile isBlank
  | r => r

/-- The character behind the next one and the ignored blanks behind that. -/
def peekSpace? (c : Cursor) : Option Char :=
  if c.ignoreSpace then (pastBlanks c.rest.tail).head?.or c.peek? else c.peek?

theorem rest_bump (c : Cursor) : c.bump.rest = c.rest.tail := by
  unfold bump
  cases h : c.rest <;> simp [h]

theorem bump_suffix (c : Cursor) : c.bump.rest <:+ c.rest :=
  c.rest_bump ▸ List.tail_suffix _

theorem bumps_suffix (count : Nat) (c : Cursor) : (c.bumps count).rest <:+ c.rest := by
  induction count generalizing c with
  | zero => exact List.suffix_refl _
  | succ count ih => exact (ih c.bump).trans c.bump_suffix

theorem skipIgnored_suffix (fuel : Nat) (inComment : Bool) (c : Cursor) :
    (skipIgnored fuel inComment c).rest <:+ c.rest := by
  induction fuel generalizing inComment c with
  | zero => exact List.suffix_refl _
  | succ fuel ih =>
    have hbump (inComment : Bool) : (skipIgnored fuel inComment c.bump).rest <:+ c.rest :=
      (ih inComment c.bump).trans c.bump_suffix
    unfold skipIgnored
    split
    · exact List.suffix_refl _
    · split
      · exact hbump _
      · split
        · exact hbump _
        · split
          · exact hbump _
          · exact List.suffix_refl _

theorem skipSpace_suffix (c : Cursor) : c.skipSpace.rest <:+ c.rest := by
  unfold skipSpace
  split
  · exact skipIgnored_suffix _ _ c
  · exact List.suffix_refl _

end Cursor

/-- The reading of a part of a source. It only goes forward. -/
structure Parse (α : Type) where
  run : Cursor → Except SyntaxError (α × Cursor)
  forward : ∀ {c c' : Cursor} {a : α}, run c = .ok (a, c') → c'.rest <:+ c.rest

namespace Parse

variable {α β : Type}

instance : Monad Parse where
  pure a := ⟨fun c => .ok (a, c), fun h => by cases h; exact List.suffix_refl _⟩
  bind x f :=
    { run := fun c =>
        match x.run c with
        | .ok (a, c) => (f a).run c
        | .error e => .error e
      forward := by
        intro c c' b h
        cases hx : x.run c with
        | error e => simp [hx] at h
        | ok p =>
          simp only [hx] at h
          exact ((f p.1).forward h).trans (x.forward hx) }

/-- What is seen from where the cursor is. -/
def see (f : Cursor → α) : Parse α :=
  ⟨fun c => .ok (f c, c), fun h => by cases h; exact List.suffix_refl _⟩

def move (f : Cursor → Cursor) (h : ∀ c, (f c).rest <:+ c.rest) : Parse Unit :=
  ⟨fun c => .ok ((), f c), fun he => by cases he; exact h _⟩

/-- Reads a part and goes back to where it begins. -/
def ahead (x : Parse α) : Parse α where
  run c := (x.run c).map fun p => (p.1, c)
  forward := by
    intro c c' a h
    cases hx : x.run c with
    | error e => simp [hx, Except.map] at h
    | ok p =>
      simp only [hx, Except.map] at h
      cases h
      exact List.suffix_refl _

/-- Sets whether blanks are ignored from here on. -/
def setIgnoreSpace (ignoreSpace : Bool) : Parse Unit :=
  move (fun c => { c with ignoreSpace }) fun _ => List.suffix_refl _

def addGroupName (name : String) (span : Span) : Parse Unit :=
  move (fun c => { c with groupNames := (name, span) :: c.groupNames }) fun _ => List.suffix_refl _

def orRefuse : Except SyntaxError α → Parse α
  | .ok a => pure a
  | .error e => ⟨fun _ => .error e, fun h => by cases h⟩

end Parse

open Parse (see move ahead orRefuse setIgnoreSpace addGroupName)

def refuse {α : Type} (span : Span) (fault : Fault) : Parse α :=
  orRefuse (.error ⟨fault, span, none⟩)

def refuseRepeated {α : Type} (span : Span) (fault : Fault) (earlier : Span) : Parse α :=
  orRefuse (.error ⟨fault, span, some earlier⟩)

def place : Parse Place := see (·.place)

def charSpan : Parse Span := see (·.charSpan)

def next? : Parse (Option Char) := see (·.rest.head?)

def atEnd : Parse Bool := see (·.rest.isEmpty)

/-- Goes past the next character and says whether another one follows. -/
def bump : Parse Bool := do
  move (·.bump) Cursor.bump_suffix
  return !(← atEnd)

def skipSpace : Parse Unit :=
  move (·.skipSpace) Cursor.skipSpace_suffix

def bumps (count : Nat) : Parse Unit :=
  move (·.bumps count) (Cursor.bumps_suffix count)

def bumpAndSkip : Parse Bool := do
  let _ ← bump
  skipSpace
  return !(← atEnd)

/-- Goes past `text`, if it comes next. -/
def bumpIf (text : String) : Parse Bool := do
  if ← see (text.toList.isPrefixOf ·.rest) then
    bumps text.length
    return true
  else return false

/-- Enough fuel for a loop that goes forward. -/
def fuelLeft : Parse Nat := see (·.rest.length + 1)

def spanFrom (start : Place) : Parse Span := do return ⟨start, ← place⟩

/-- A run of characters of one kind, ignored blanks among them. -/
def charsRun (kind : Char → Bool) : (fuel : Nat) → Parse (List Char)
  | 0 => pure []
  | fuel + 1 => do
    match ← next? with
    | some c =>
      if kind c then
        let _ ← bumpAndSkip
        return c :: (← charsRun kind fuel)
      else return []
    | none => return []

def skipBlanks : (fuel : Nat) → (ignored : Bool) → Parse Unit
  | 0, _ => pure ()
  | fuel + 1, ignored => do
    match ← next? with
    | some c =>
      if isBlank c then
        let _ ← if ignored then bumpAndSkip else bump
        skipBlanks fuel ignored
      else return
    | none => return

/-- A number of 32 bits, or the fault in its place. -/
def decimal : Parse (Except SyntaxError Nat) := do
  skipBlanks (← fuelLeft) false
  let start ← place
  let digits ← charsRun isDigit (← fuelLeft)
  let span ← spanFrom start
  skipBlanks (← fuelLeft) true
  if digits.isEmpty then return .error ⟨.repetitionCountEmpty, span, none⟩
  else
    let n := digitsValue 0 digits
    return if n < Nat.pow 2 32 then .ok n else .error ⟨.decimalInvalid, span, none⟩

/-- What an escape or a plain character is. -/
inductive Primitive where
  | literal (literal : Literal)
  | assertion (span : Span) (assertion : Assertion)
  | dot (span : Span)
  | simple (span : Span) (class_ : SimpleClass)

def Primitive.span : Primitive → Span
  | .literal l => l.span
  | .assertion s _ => s
  | .dot s => s
  | .simple s _ => s

def Primitive.toAst : Primitive → Ast
  | .literal l => .literal l
  | .assertion s a => .assertion s a
  | .dot s => .dot s
  | .simple s c => .simple s c

def character? (n : Nat) : Option Char :=
  if n < 0xD800 || (0xDFFF < n && n ≤ 0x10FFFF) then some (Char.ofNat n) else none

def hexNumber (digits : List Nat) : Nat :=
  digits.foldl (fun n d => 16 * n + d) 0

/-- A given count of digits in base sixteen. -/
def hexDigits : (count : Nat) → (first : Bool) → Parse (List Nat)
  | 0, _ => pure []
  | count + 1, first => do
    if !first then
      if !(← bumpAndSkip) then refuse (.at (← place)) .escapeUnexpectedEnd
    match (← next?).bind hexValue? with
    | none => refuse (← charSpan) .escapeHexInvalidDigit
    | some d => return d :: (← hexDigits count false)

/-- Digits in base sixteen up to the closing brace, the opening one being next. -/
def bracedHexDigits : (fuel : Nat) → Parse (List Nat)
  | 0 => pure []
  | fuel + 1 => do
    if !(← bumpAndSkip) then return []
    match ← next? with
    | some '\x7d' => return []
    | some c =>
      match hexValue? c with
      | some d => return d :: (← bracedHexDigits fuel)
      | none => refuse (← charSpan) .escapeHexInvalidDigit
    | none => return []

/-- A character by its number, behind the letter `kind`. -/
def hexEscape (start : Place) (kind : Char) : Parse Literal := do
  if !(← bumpAndSkip) then refuse (.at (← place)) .escapeUnexpectedEnd
  if (← next?) == some '\x7b' then
    let brace ← place
    let first := (← charSpan).stop
    let digits ← bracedHexDigits (← fuelLeft)
    if ← atEnd then refuse (← spanFrom brace) .escapeUnexpectedEnd
    let last ← place
    let _ ← bumpAndSkip
    if digits.isEmpty then refuse (← spanFrom brace) .escapeHexEmpty
    match character? (hexNumber digits) with
    | some c => return ⟨← spanFrom start, c, false⟩
    | none => refuse ⟨first, last⟩ .escapeHexInvalid
  else
    let first ← place
    let digits ← hexDigits (if kind = 'x' then 2 else if kind = 'u' then 4 else 8) true
    let _ ← bumpAndSkip
    match character? (hexNumber digits) with
    | some c => return ⟨← spanFrom start, c, kind = 'x'⟩
    | none => refuse (← spanFrom first) .escapeHexInvalid

/-- The text up to a closing brace, the opening one being next. -/
def bracedName : (fuel : Nat) → Parse (List Char)
  | 0 => pure []
  | fuel + 1 => do
    if !(← bumpAndSkip) then return []
    match ← next? with
    | some '\x7d' => return []
    | some c => return c :: (← bracedName fuel)
    | none => return []

/-- The text before the first place where `mark` stands, and the text behind. -/
def splitAt? (mark : List Char) : List Char → Option (List Char × List Char)
  | [] => none
  | c :: s =>
    if mark.isPrefixOf (c :: s) then some ([], (c :: s).drop mark.length)
    else (splitAt? mark s).map fun (before, behind) => (c :: before, behind)

/-- A property by its text, and whether the text asks for the characters without it. -/
def propertyName (text : List Char) : PropertyName × Bool :=
  match splitAt? ['!', '='] text, splitAt? [':'] text, splitAt? ['='] text with
  | some (name, value), _, _ => (.valued (.ofList name) (.ofList value), true)
  | none, some (name, value), _ => (.valued (.ofList name) (.ofList value), false)
  | none, none, some (name, value) => (.valued (.ofList name) (.ofList value), false)
  | none, none, none => (.named (.ofList text), false)

/-- A property behind its backslash. -/
def propertyEscape (start : Place) (negated : Bool) : Parse Primitive := do
  if !(← bumpAndSkip) then refuse (.at (← place)) .escapeUnexpectedEnd
  match ← next? with
  | some '\x7b' =>
    let text ← bracedName (← fuelLeft)
    if ← atEnd then refuse (.at (← place)) .escapeUnexpectedEnd
    let _ ← bump
    let (name, inverse) := propertyName text
    return .simple (← spanFrom start) (.property name (negated != inverse))
  | some '\\' => refuse (← charSpan) .propertyInvalid
  | some c =>
    let _ ← bumpAndSkip
    return .simple (← spanFrom start) (.property (.named (.singleton c)) negated)
  | none => refuse (.at (← place)) .escapeUnexpectedEnd

def isMeta (c : Char) : Bool :=
  "\\.+*?()|[]\x7b\x7d^$#&-~".toList.contains c

/-- Characters that a backslash leaves as they are. -/
def isEscapable (c : Char) : Bool :=
  isMeta c || (c.toNat < 128 && !isAlphanumeric c && c != '<' && c != '>')

def control? : Char → Option Char
  | 'a' => some (Char.ofNat 7)
  | 'f' => some (Char.ofNat 12)
  | 't' => some '\t'
  | 'n' => some '\n'
  | 'r' => some '\r'
  | 'v' => some (Char.ofNat 11)
  | _ => none

def letterClass? : Char → Option SimpleClass
  | 'd' => some (.letter .digit false)
  | 's' => some (.letter .space false)
  | 'w' => some (.letter .word false)
  | 'D' => some (.letter .digit true)
  | 'S' => some (.letter .space true)
  | 'W' => some (.letter .word true)
  | _ => none

/-- The assertions with a letter or sign of their own; the letter `b` may begin a longer one. -/
def assertion? : Char → Option Assertion
  | 'A' => some .startText
  | 'z' => some .endText
  | 'B' => some .notWordBoundary
  | '<' => some .wordStart
  | '>' => some .wordEnd
  | _ => none

def isBoundaryNamePart (c : Char) : Bool :=
  isLetter c || c == '-'

def boundaryKind? : String → Option Assertion
  | "start" => some .wordStart
  | "end" => some .wordEnd
  | "start-half" => some .wordStartHalf
  | "end-half" => some .wordEndHalf
  | _ => none

/-- The kind of a word boundary by its name in braces, the opening one being next. -/
def boundaryName : Parse Assertion := do
  let brace ← place
  let _ ← bumpAndSkip
  let first ← place
  let name ← charsRun isBoundaryNamePart (← fuelLeft)
  if (← next?) != some '\x7d' then refuse (← spanFrom brace) .wordBoundaryUnclosed
  let last ← place
  let _ ← bump
  match boundaryKind? (String.ofList name) with
  | some kind => return kind
  | none => refuse ⟨first, last⟩ .wordBoundaryUnrecognized

/-- Whether a name is in the braces; a count in braces is left to the repetition. -/
def isBoundaryName (start : Place) : Parse Bool :=
  ahead do
    if !(← bumpAndSkip) then refuse (← spanFrom start) .wordBoundaryUnexpectedEnd
    return (← next?).any isBoundaryNamePart

def boundaryAt (start : Place) (named : Bool) : Parse Primitive := do
  if named then
    let kind ← boundaryName
    return .assertion (← spanFrom start) kind
  else return .assertion (← spanFrom start) .wordBoundary

def wordBoundary (start : Place) : Parse Primitive := do
  if (← next?) == some '\x7b' then boundaryAt start (← isBoundaryName start)
  else boundaryAt start false

/-- What a backslash makes of the character `c` behind it, which is next. -/
def escapeOf (start : Place) (c : Char) : Parse Primitive := do
  if isDigit c then refuse ⟨start, (← charSpan).stop⟩ .backreference
  if c == 'x' || c == 'u' || c == 'U' then return .literal (← hexEscape start c)
  if c == 'p' || c == 'P' then propertyEscape start (c == 'P')
  else
    let _ ← bump
    let span ← spanFrom start
    match letterClass? c, control? c with
    | some class_, _ => return .simple span class_
    | none, some d => return .literal ⟨span, d, false⟩
    | none, none =>
      if isEscapable c then return .literal ⟨span, c, false⟩
      else
        match assertion? c with
        | some a => return .assertion span a
        | none => if c == 'b' then wordBoundary start else refuse span .escapeUnrecognized

/-- An escape, its backslash being next. -/
def escape : Parse Primitive := do
  let start ← place
  if !(← bump) then refuse (← spanFrom start) .escapeUnexpectedEnd
  escapeOf start ((← next?).getD '\\')

def primitive : Parse Primitive := do
  let span ← charSpan
  match ← next? with
  | some '\\' => escape
  | some c =>
    let _ ← bump
    match c with
    | '.' => return .dot span
    | '^' => return .assertion span .startLine
    | '$' => return .assertion span .endLine
    | c => return .literal ⟨span, c, false⟩
  | none => return .assertion span .endText

/-- The items of a class that were read, the last one first, and where they stand. -/
structure Items where
  span : Span
  items : List ClassSet

def Items.empty (p : Place) : Items := ⟨.at p, []⟩

def Items.push (u : Items) (item : ClassSet) : Items :=
  ⟨⟨if u.items.isEmpty then item.span.start else u.span.start, item.span.stop⟩, item :: u.items⟩

def Items.toSet (u : Items) : ClassSet :=
  match u.items with
  | [] => .empty u.span
  | [item] => item
  | items => .union u.span items.reverse

/-- What is open inside brackets: a class within a class, or the left side of an operator. -/
inductive ClassFrame where
  | opened (outer : Items) (span : Span) (negated : Bool)
  | op (op : SetOp) (left : ClassSet)

def asciiClassNames : List String :=
  ["alnum", "alpha", "ascii", "blank", "cntrl", "digit", "graph", "lower", "print", "punct",
    "space", "upper", "word", "xdigit"]

/-- The name of a class before a colon and a closing bracket. -/
def colonName? (text : List Char) : Option (List Char) :=
  match text.dropWhile (· != ':') with
  | ':' :: ']' :: _ =>
    let name := text.takeWhile (· != ':')
    if asciiClassNames.contains (String.ofList name) then some name else none
  | _ => none

/-- A class by its name between colons, whether it is negated, and its length in characters. -/
def asciiName? : List Char → Option (List Char × Bool × Nat)
  | '[' :: ':' :: r =>
    if r.head? == some '^' then (colonName? r.tail).map fun name => (name, true, name.length + 5)
    else (colonName? r).map fun name => (name, false, name.length + 4)
  | _ => none

/-- A class by its name within another class, if it is one; its bracket is next. -/
def asciiClass? (frames : List ClassFrame) : Parse (Option ClassSet) := do
  let start ← place
  let text ← see (·.rest)
  match if frames.isEmpty then none else asciiName? text with
  | some (name, negated, length) =>
    bumps length
    return some (.ascii (← spanFrom start) (String.ofList name) negated)
  | none => return none

/-- Minus signs at the start of a class stand for themselves. -/
def leadingMinus (start : Place) : (fuel : Nat) → Items → Parse Items
  | 0, u => pure u
  | fuel + 1, u => do
    if (← next?) == some '-' then
      let u := u.push (.literal ⟨← charSpan, '-', false⟩)
      if !(← bumpAndSkip) then refuse (.at start) .classUnclosed
      leadingMinus start fuel u
    else return u

/-- A caret at the start of a class negates it. -/
def classCaret (start : Place) : Parse Bool := do
  if (← next?) == some '^' then
    if !(← bumpAndSkip) then refuse (← spanFrom start) .classUnclosed
    return true
  else return false

/-- The items that only count at the start of a class: minus signs, or else a closing bracket. -/
def firstItems (start : Place) : Parse Items := do
  let u ← leadingMinus start (← fuelLeft) (.empty (← place))
  if u.items.isEmpty && (← next?) == some ']' then
    let u := u.push (.literal ⟨← charSpan, ']', false⟩)
    if !(← bumpAndSkip) then refuse (← spanFrom start) .classUnclosed
    return u
  else return u

/-- The start of a class: its span so far, whether it is negated, and its first items. -/
def openClass : Parse (Span × Bool × Items) := do
  let start ← place
  if !(← bumpAndSkip) then refuse (← spanFrom start) .classUnclosed
  let negated ← classCaret start
  let u ← firstItems start
  return (← spanFrom start, negated, u)

def unclosed {α : Type} (frames : List ClassFrame) : Parse α := do
  let span? := frames.findSome? fun
    | .opened _ span _ => some span
    | .op _ _ => none
  refuse (span?.getD (.at (← place))) .classUnclosed

def classItem : Parse Primitive := do
  if (← next?) == some '\\' then escape
  else
    let span ← charSpan
    let c := (← next?).getD ' '
    let _ ← bump
    return .literal ⟨span, c, false⟩

def Primitive.toItem : Primitive → Parse ClassSet
  | .literal l => pure (.literal l)
  | .simple s c => pure (.simple s c)
  | p => refuse p.span .classEscapeInvalid

def Primitive.toBound : Primitive → Parse Literal
  | .literal l => pure l
  | p => refuse p.span .classRangeLiteral

/-- A minus sign is next that stands between the bounds of a range. -/
def isRange (c : Cursor) : Bool :=
  c.rest.head? == some '-' && c.peekSpace? != some ']' && c.peekSpace? != some '-'

def rangeOf (first second : Primitive) : Parse ClassSet := do
  let span : Span := ⟨first.span.start, second.span.stop⟩
  let low ← first.toBound
  let high ← second.toBound
  if high.character < low.character then refuse span .classRangeInvalid
  else return .range span low high

/-- What a character or a class is, with what stands behind it. -/
def rangeFrom (frames : List ClassFrame) (first : Primitive) : Parse ClassSet := do
  if ← atEnd then unclosed frames
  if ← see isRange then
    if !(← bumpAndSkip) then unclosed frames
    rangeOf first (← classItem)
  else first.toItem

/-- A character, a class, or a range of characters. -/
def classRange (frames : List ClassFrame) : Parse ClassSet := do
  let first ← classItem
  skipSpace
  rangeFrom frames first

/-- The right side of an operator joined to its left side, if there is one. -/
def joinOp (frames : List ClassFrame) (right : ClassSet) : ClassSet × List ClassFrame :=
  match frames with
  | .op op left :: frames => (.op ⟨left.span.start, right.span.stop⟩ op left right, frames)
  | frames => (right, frames)

def setOp? (c : Cursor) : Option SetOp :=
  match c.rest with
  | '&' :: '&' :: _ => some .intersection
  | '-' :: '-' :: _ => some .difference
  | '~' :: '~' :: _ => some .symmetricDifference
  | _ => none

def openNested (frames : List ClassFrame) (items : Items) : Parse (List ClassFrame × Items) := do
  match ← asciiClass? frames with
  | some item => return (frames, items.push item)
  | none =>
    let (span, negated, inner) ← openClass
    return (.opened items span negated :: frames, inner)

def operator (op : SetOp) (frames : List ClassFrame) (items : Items) :
    Parse (List ClassFrame × Items) := do
  bumps 2
  let (left, frames) := joinOp frames items.toSet
  return (.op op left :: frames, .empty (← place))

/-- One step within a class, its next character `d` not being a closing bracket. -/
def classStep (d : Char) (frames : List ClassFrame) (items : Items) :
    Parse (List ClassFrame × Items) := do
  if d = '[' then openNested frames items
  else
    match ← see setOp? with
    | some op => operator op frames items
    | none => return (frames, items.push (← classRange frames))

/-- A class that is read further, or the whole class. -/
inductive ClassState where
  | inside (frames : List ClassFrame) (items : Items)
  | whole (ast : Ast)

def closeNested (frames : List ClassFrame) (items : Items) : Parse ClassState := do
  match joinOp frames items.toSet with
  | (set, .opened outer span negated :: frames) =>
    let _ ← bump
    let span : Span := ⟨span.start, ← place⟩
    if frames.isEmpty then return .whole (.bracketed span negated set)
    else return .inside frames (outer.push (.bracketed span negated set))
  | (_, frames) => unclosed frames

def classLoop : (fuel : Nat) → List ClassFrame → Items → Parse Ast
  | 0, frames, _ => unclosed frames
  | fuel + 1, frames, items => do
    skipSpace
    match ← next? with
    | none => unclosed frames
    | some d =>
      if d = ']' then
        match ← closeNested frames items with
        | .inside frames items => classLoop fuel frames items
        | .whole ast => return ast
      else
        let (frames, items) ← classStep d frames items
        classLoop fuel frames items

/-- A class, its opening bracket being next. -/
def bracketed : Parse Ast := do
  classLoop (← fuelLeft) [] (.empty (← place))

/-- A group that is open, or the branches of an alternation, the last one first. -/
inductive GroupFrame where
  | group (before : List Ast) (start : Place) (span : Span) (flags : List FlagItem)
    (ignoreSpace : Bool)
  | alternation (start : Place) (branches : List Ast)

def flag? : Char → Option Flag
  | 'i' => some .ignoreCase
  | 'm' => some .multiLine
  | 's' => some .dotAll
  | 'U' => some .swapGreed
  | 'u' => some .unicode
  | 'R' => some .crlf
  | 'x' => some .ignoreSpace
  | _ => none

def flagItem? : Char → Option FlagItem
  | '-' => some .minus
  | c => (flag? c).map .flag

/-- Flags up to a colon or a closing parenthesis; those read so far are in reverse. -/
def flagItems : (fuel : Nat) → List (FlagItem × Span) → Parse (List FlagItem)
  | 0, _ => pure []
  | fuel + 1, read => do
    let span ← charSpan
    match ← next? with
    | none => refuse (.at (← place)) .flagUnexpectedEnd
    | some c =>
      if c == ':' || c == ')' then
        match read with
        | (.minus, span) :: _ => refuse span .flagDanglingNegation
        | read => return read.reverse.map (·.1)
      else
        match flagItem? c with
        | none => refuse span .flagUnrecognized
        | some item =>
          match read.lookup item with
          | some earlier =>
            refuseRepeated span (if item = .minus then .flagRepeatedNegation else .flagDuplicate)
              earlier
          | none =>
            if !(← bump) then refuse (.at (← place)) .flagUnexpectedEnd
            flagItems fuel ((item, span) :: read)

def inProperty (table : List Property) (name : String) : List (Nat × Nat) :=
  ((table.find? (·.names.contains name)).map (·.ranges)).getD []

def alphabetic : List (Nat × Nat) := inProperty attributes "Alphabetic"

def numeric : List (Nat × Nat) := inProperty generalCategories "N"

/-- Characters that a group name may hold. -/
def isGroupNamePart (first : Bool) (c : Char) : Bool :=
  c == '_' || inRanges alphabetic c.toNat ||
    (!first && (c == '.' || c == '[' || c == ']' || inRanges numeric c.toNat))

def groupNameChars : (fuel : Nat) → (first : Bool) → Parse (List Char)
  | 0, _ => pure []
  | fuel + 1, first => do
    match ← next? with
    | none => return []
    | some c =>
      if c = '>' then return []
      if !isGroupNamePart first c then refuse (← charSpan) .groupNameInvalid
      let _ ← bump
      return c :: (← groupNameChars fuel false)

/-- A name is given to one group only. -/
def nameGroup (span : Span) (name : List Char) : Parse Unit := do
  if name.isEmpty then refuse (.at span.start) .groupNameEmpty
  let name := String.ofList name
  match ← see (·.groupNames.lookup name) with
  | some earlier => refuseRepeated span .groupNameDuplicate earlier
  | none => addGroupName name span

/-- A name up to its closing angle. -/
def groupName : Parse Unit := do
  if ← atEnd then refuse (.at (← place)) .groupNameUnexpectedEnd
  let start ← place
  let name ← groupNameChars (← fuelLeft) true
  let span ← spanFrom start
  if ← atEnd then refuse (.at (← place)) .groupNameUnexpectedEnd
  let _ ← bump
  nameGroup span name

def isLookAround : Parse Bool := do
  if ← bumpIf "?=" then return true
  else if ← bumpIf "?!" then return true
  else if ← bumpIf "?<=" then return true
  else bumpIf "?<!"

/-- What an opening parenthesis begins. -/
inductive GroupStart where
  | flags (ast : Ast) (items : List FlagItem)
  | group (span : Span) (flags : List FlagItem)

/-- Flags behind the question mark at `inner`, for what follows them or for a group. -/
def flagGroup (opening : Span) (inner : Place) : Parse GroupStart := do
  if ← atEnd then refuse opening .groupUnclosed
  let items ← flagItems (← fuelLeft) []
  let last ← next?
  let _ ← bump
  if last == some ')' then
    if items.isEmpty then refuse (.at inner) .repetitionMissing
    return .flags (.flags (← spanFrom opening.start) items) items
  else return .group opening items

def groupStart : Parse GroupStart := do
  let opening ← charSpan
  let _ ← bumpAndSkip
  if ← isLookAround then refuse (← spanFrom opening.start) .lookAround
  let inner ← place
  if ← bumpIf "?P<" then
    groupName
    return .group opening []
  else if ← bumpIf "?<" then
    groupName
    return .group opening []
  else if ← bumpIf "?" then flagGroup opening inner
  else return .group opening []

/-- The part that is repeated, and the parts before it. Flags cannot be repeated. -/
def repeatable? : List Ast → Option (Ast × List Ast)
  | [] => none
  | .empty _ :: _ => none
  | .flags _ _ :: _ => none
  | part :: parts => some (part, parts)

def repeated (parts : List Ast) : Parse (Ast × List Ast) := do
  match repeatable? parts with
  | some p => return p
  | none => refuse (.at (← place)) .repetitionMissing

def skipLazyMark (follows : Bool) : Parse Unit := do
  if follows && (← next?) == some '?' then
    let _ ← bump

/-- A repetition by a sign. -/
def signRepetition (parts : List Ast) (min : Nat) (max? : Option Nat) : Parse (List Ast) := do
  let (part, parts) ← repeated parts
  skipLazyMark (← bump)
  return .repetition ⟨part.span.start, ← place⟩ min max? part :: parts

/-- The least and the largest count in braces. -/
def countBounds (start : Place) : Parse (Nat × Option Nat) := do
  let low ← decimal
  if ← atEnd then refuse (← spanFrom start) .repetitionCountUnclosed
  if (← next?) == some ',' then
    if !(← bumpAndSkip) then refuse (← spanFrom start) .repetitionCountUnclosed
    let closed := (← next?) == some '\x7d'
    let low ← orRefuse low
    if closed then return (low, none)
    else return (low, some (← orRefuse (← decimal)))
  else
    let low ← orRefuse low
    return (low, some low)

/-- A repetition by a count, from its closing brace on. -/
def countEnd (start : Place) (part : Ast) (parts : List Ast) (min : Nat) (max? : Option Nat) :
    Parse (List Ast) := do
  if (← next?) != some '\x7d' then refuse (← spanFrom start) .repetitionCountUnclosed
  skipLazyMark (← bumpAndSkip)
  if max?.any (· < min) then refuse (← spanFrom start) .repetitionCountInvalid
  return .repetition ⟨part.span.start, ← place⟩ min max? part :: parts

/-- A repetition by a count in braces. -/
def countRepetition (parts : List Ast) : Parse (List Ast) := do
  let start ← place
  let (part, parts) ← repeated parts
  if !(← bumpAndSkip) then refuse (← spanFrom start) .repetitionCountUnclosed
  let (min, max?) ← countBounds start
  countEnd start part parts min max?

/-- The parts since the last opening, in reverse, and where they began. -/
structure Parts where
  start : Place
  parts : List Ast

def Parts.toAst (p : Parts) (stop : Place) : Ast :=
  .ofParts ⟨p.start, stop⟩ p.parts.reverse

/-- What is open, and the parts since the last opening. -/
structure Groups where
  frames : List GroupFrame
  parts : Parts

/-- What was read since the innermost opening, up to `stop`, and what is open around it. -/
def Groups.body (g : Groups) (stop : Place) : Ast × List GroupFrame :=
  match g.frames with
  | .alternation start branches :: frames =>
    (.alternation ⟨start, stop⟩ (branches.reverse ++ [g.parts.toAst stop]), frames)
  | frames => (g.parts.toAst stop, frames)

def closeGroup (g : Groups) : Parse Groups := do
  match g.body (← place) with
  | (body, .group before start span items ignoreSpace :: frames) =>
    setIgnoreSpace ignoreSpace
    let _ ← bump
    return ⟨frames, start, .group ⟨span.start, ← place⟩ items body :: before⟩
  | _ => refuse (← charSpan) .groupUnopened

/-- A branch that ends at `stop`, and the next one, which begins at `here`. -/
def Groups.branch (g : Groups) (stop here : Place) : Groups :=
  let branch := g.parts.toAst stop
  match g.frames with
  | .alternation start branches :: frames =>
    ⟨.alternation start (branch :: branches) :: frames, here, []⟩
  | frames => ⟨.alternation g.parts.start [branch] :: frames, here, []⟩

def addBranch (g : Groups) : Parse Groups := do
  let stop ← place
  let _ ← bump
  return g.branch stop (← place)

def openGroup (g : Groups) : Parse Groups := do
  match ← groupStart with
  | .flags ast items =>
    setIgnoreSpace ((flagState .ignoreSpace items).getD (← see (·.ignoreSpace)))
    return ⟨g.frames, g.parts.start, ast :: g.parts.parts⟩
  | .group span items =>
    let old ← see (·.ignoreSpace)
    setIgnoreSpace ((flagState .ignoreSpace items).getD old)
    return ⟨.group g.parts.parts g.parts.start span items old :: g.frames, ← place, []⟩

/-- The whole pattern, at its end. -/
def finish (g : Groups) : Parse Ast := do
  let stop ← place
  match g.body stop with
  | (body, []) => return body
  | _ =>
    let span? := g.frames.findSome? fun
      | .group _ _ span _ _ => some span
      | .alternation _ _ => none
    refuse (span?.getD (.at stop)) .groupUnclosed

/-- The parts since the last opening, read on. -/
def part (d : Char) (parts : List Ast) : Parse (List Ast) := do
  match d with
  | '[' => return (← bracketed) :: parts
  | '?' => signRepetition parts 0 (some 1)
  | '*' => signRepetition parts 0 none
  | '+' => signRepetition parts 1 none
  | '\x7b' => countRepetition parts
  | _ => return (← primitive).toAst :: parts

/-- One step of a pattern, its next character being `d`. -/
def step (d : Char) (g : Groups) : Parse Groups := do
  match d with
  | '(' => openGroup g
  | ')' => closeGroup g
  | '|' => addBranch g
  | _ => return ⟨g.frames, g.parts.start, ← part d g.parts.parts⟩

def loop : (fuel : Nat) → Groups → Parse Ast
  | 0, g => finish g
  | fuel + 1, g => do
    skipSpace
    match ← next? with
    | none => finish g
    | some d => loop fuel (← step d g)

mutual

/-- The first part of a class that is nested too deeply, `room` levels being left. -/
def tooDeepSet? (room : Nat) : ClassSet → Option Span
  | .bracketed span _ set => if room = 0 then some span else tooDeepSet? (room - 1) set
  | .union span items => if room = 0 then some span else tooDeepItems? (room - 1) items
  | .op span _ left right =>
    if room = 0 then some span
    else (tooDeepSet? (room - 1) left).orElse fun _ => tooDeepSet? (room - 1) right
  | _ => none

def tooDeepItems? (room : Nat) : List ClassSet → Option Span
  | [] => none
  | item :: items => (tooDeepSet? room item).orElse fun _ => tooDeepItems? room items

end

mutual

def tooDeep? (room : Nat) : Ast → Option Span
  | .bracketed span _ set => if room = 0 then some span else tooDeepSet? (room - 1) set
  | .repetition span _ _ body => if room = 0 then some span else tooDeep? (room - 1) body
  | .group span _ body => if room = 0 then some span else tooDeep? (room - 1) body
  | .alternation span parts => if room = 0 then some span else tooDeepParts? (room - 1) parts
  | .concat span parts => if room = 0 then some span else tooDeepParts? (room - 1) parts
  | _ => none

def tooDeepParts? (room : Nat) : List Ast → Option Span
  | [] => none
  | part :: parts => (tooDeep? room part).orElse fun _ => tooDeepParts? room parts

end

/-- The syntax of a pattern, if its source is well formed. -/
def parse (source : List Char) : Except SyntaxError Ast := do
  let cursor : Cursor := ⟨source, .start, false, []⟩
  let (ast, _) ← (loop (source.length + 1) ⟨[], .start, []⟩).run cursor
  match tooDeep? nestingLimit ast with
  | some span => .error ⟨.nestedTooDeep, span, none⟩
  | none => .ok ast

end AppDef.Pattern
