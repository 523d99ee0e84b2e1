import AppDef.Unicode.Attribute
import AppDef.Unicode.Category

namespace AppDef.Text

open AppDef.Unicode

def rangesOf (table : List Property) (name : String) : List (Nat × Nat) :=
  ((table.find? (·.names.contains name)).map (·.ranges)).getD []

/-- Controls, blanks other than the space, and code points without a character. -/
def unseen : List (Nat × Nat) :=
  ["C", "Z"].flatMap (rangesOf generalCategories)

/-- Characters that are drawn onto the one before them. -/
def attached : List (Nat × Nat) :=
  rangesOf attributes "Grapheme_Extend"

def isVisible (c : Char) : Bool :=
  c == ' ' || !(inRanges unseen c.toNat || inRanges attached c.toNat)

def byNumber (c : Char) : List Char :=
  '\\' :: 'u' :: '\x7b' :: Nat.toDigits 16 c.toNat ++ ['\x7d']

def quotedChar (c : Char) : List Char :=
  if c = '"' then ['\\', '"']
  else if c = '\\' then ['\\', '\\']
  else if c = '\n' then ['\\', 'n']
  else if c = '\r' then ['\\', 'r']
  else if c = '\t' then ['\\', 't']
  else if c.toNat = 0 then ['\\', '0']
  else if isVisible c then [c]
  else byNumber c

/-- Text in quotes as messages show it: what would not be seen on its own is written by its number.
-/
def quoted (s : String) : String :=
  String.ofList ('"' :: s.toList.flatMap quotedChar ++ ['"'])

end AppDef.Text
