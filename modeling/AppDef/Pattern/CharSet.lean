import AppDef.Pattern.Syntax
import AppDef.Unicode.Folding

namespace AppDef.Pattern

/-- A set of characters by the way it is built. Membership follows the construction. -/
inductive CharSet where
  | ranges (ranges : List (Nat × Nat))
  | union (sets : List CharSet)
  | op (op : SetOp) (left right : CharSet)
  | complement (set : CharSet)
  /-- All characters that differ in case only from one of `set`. -/
  | folded (unicode : Bool) (set : CharSet)

def SetOp.apply : SetOp → Bool → Bool → Bool
  | .intersection, a, b => a && b
  | .difference, a, b => a && !b
  | .symmetricDifference, a, b => a != b

/-- The other case of an ASCII letter, and the letter. -/
def asciiVariants (n : Nat) : List Nat :=
  if 65 ≤ n && n ≤ 90 then [n, n + 32]
  else if 97 ≤ n && n ≤ 122 then [n, n - 32]
  else [n]

def variants (unicode : Bool) (n : Nat) : List Nat :=
  if unicode then Unicode.caseVariants n else asciiVariants n

mutual

def CharSet.contains : CharSet → Nat → Bool
  | .ranges rs, n => Unicode.inRanges rs n
  | .union sets, n => containedInAny sets n
  | .op op left right, n => op.apply (left.contains n) (right.contains n)
  | .complement set, n => !set.contains n
  | .folded unicode set, n => (variants unicode n).any fun m => set.contains m

def containedInAny : List CharSet → Nat → Bool
  | [], _ => false
  | set :: sets, n => set.contains n || containedInAny sets n

end

def CharSet.single (c : Char) : CharSet :=
  .ranges [(c.toNat, c.toNat)]

def CharSet.negateIf (negated : Bool) (set : CharSet) : CharSet :=
  if negated then .complement set else set

/-- No byte above the ASCII ones is in the set. -/
def CharSet.isAscii (set : CharSet) : Bool :=
  (List.range 128).all fun n => !set.contains (n + 128)

end AppDef.Pattern
