import AppDef.Pattern.Basic

namespace AppDef.Pattern

def isWord (unicode : Bool) (c? : Option Char) : Bool :=
  c?.any fun c => (LetterClass.word.set unicode).contains c.toNat

def Boundary.holds (before behind : Bool) : Boundary → Bool
  | .word => before != behind
  | .notWord => before == behind
  | .start => !before && behind
  | .stop => before && !behind
  | .startHalf => !before
  | .stopHalf => !behind

def before? (text : List Char) : (place : Nat) → Option Char
  | 0 => none
  | place + 1 => text[place]?

def Look.holds (text : List Char) (place : Nat) : Look → Bool
  | .start => place == 0
  | .stop => place == text.length
  | .lineStart crlf =>
    let before := before? text place
    before.isNone || before == some '\n' ||
      (crlf && before == some '\r' && text[place]? != some '\n')
  | .lineEnd crlf =>
    let behind := text[place]?
    if crlf then
      behind.isNone || behind == some '\r' ||
        (behind == some '\n' && before? text place != some '\r')
    else behind.isNone || behind == some '\n'
  | .boundary kind unicode =>
    kind.holds (isWord unicode (before? text place)) (isWord unicode text[place]?)

/-- The places of `more` that are not known yet, added. -/
def addPlaces (known more : List Nat) : List Nat :=
  more.foldl (fun known place => if known.contains place then known else known ++ [place]) known

/-- `step` done so many times. A step that changes nothing needs no other one. -/
def exactly (step : List Nat → List Nat) : (count : Nat) → List Nat → List Nat
  | 0, places => places
  | count + 1, places =>
    let next := step places
    if next == places then places else exactly step count next

/-- All places that at most so many steps lead to from the `fresh` ones, added to the `known` ones. -/
def atMost (step : List Nat → List Nat) : (count : Nat) → (known fresh : List Nat) → List Nat
  | 0, known, _ => known
  | count + 1, known, fresh =>
    let all := addPlaces known (step fresh)
    let added := all.drop known.length
    if added.isEmpty then known else atMost step count all added

mutual

/-- A pattern takes a set of places in a text to the set of places that it can lead to from one of
them. -/
def reach (text : List Char) : Pattern → List Nat → List Nat
  | .one set, places => places.filter (fun i => (text[i]?).any (set.contains ·.toNat)) |>.map (· + 1)
  | .look l, places => places.filter fun i => l.holds text i
  | .concat parts, places => reachAll text parts places
  | .alternation branches, places => reachAny text branches places
  | .repetition body min max?, places =>
    let behind := exactly (fun ps => reach text body ps) min places
    match max? with
    | some max => atMost (fun ps => reach text body ps) (max - min) behind behind
    | none => atMost (fun ps => reach text body ps) (text.length + 1) behind behind

def reachAll (text : List Char) : List Pattern → List Nat → List Nat
  | [], places => places
  | p :: ps, places => reachAll text ps (reach text p places)

def reachAny (text : List Char) : List Pattern → List Nat → List Nat
  | [], _ => []
  | p :: ps, places => addPlaces (reach text p places) (reachAny text ps places)

end

/-- The pattern matches a part of the text. -/
def occursIn (p : Pattern) (text : String) : Bool :=
  let s := text.toList
  !(reach s p (List.range (s.length + 1))).isEmpty

end AppDef.Pattern
