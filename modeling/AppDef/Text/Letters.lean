
namespace AppDef.Text

/-- The twenty-six ASCII letters in lower case, all other characters kept. -/
def lowercase (s : String) : String :=
  String.ofList (s.toList.map Char.toLower)

/-- Equality up to the case of ASCII letters. -/
def sameLetters (s t : String) : Bool :=
  lowercase s == lowercase t

def isDigit (c : Char) : Bool :=
  '0' ≤ c && c ≤ '9'

def isLower (c : Char) : Bool :=
  'a' ≤ c && c ≤ 'z'

def isUpper (c : Char) : Bool :=
  'A' ≤ c && c ≤ 'Z'

def isLetter (c : Char) : Bool :=
  isLower c || isUpper c

def isAlphanumeric (c : Char) : Bool :=
  isLetter c || isDigit c

/-- The value of a digit in base sixteen. -/
def hexValue? (c : Char) : Option Nat :=
  if isDigit c then some (c.toNat - 48)
  else if 'a' ≤ c && c ≤ 'f' then some (c.toNat - 87)
  else if 'A' ≤ c && c ≤ 'F' then some (c.toNat - 55)
  else none

/-- The number a run of digits writes, added to what `start` already counts. -/
def digitsValue (start : Nat) (digits : List Char) : Nat :=
  digits.foldl (fun n c => 10 * n + (c.toNat - 48)) start

end AppDef.Text
