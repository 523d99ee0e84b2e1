
namespace AppDef.Unicode

/-- A property under its names, with the text of its distances. -/
structure Property where
  names : List String
  text : List String

/-- The value of a digit that is not the last of its number. -/
def leadingDigit? (c : Char) : Option Nat :=
  if '0' ≤ c && c ≤ '9' then some (c.toNat - 48)
  else if 'a' ≤ c && c ≤ 'v' then some (c.toNat - 87)
  else none

def lastDigit (c : Char) : Nat :=
  if 'A' ≤ c && c ≤ 'Z' then c.toNat - 65
  else if 'w' ≤ c && c ≤ 'z' then c.toNat - 93
  else if c = '+' then 30
  else 31

/-- The numbers that a text of digits writes; `start` is what the digits before it come to. -/
def numbersFrom (start : Nat) : List Char → List Nat
  | [] => []
  | c :: s =>
    match leadingDigit? c with
    | some d => numbersFrom (32 * start + d) s
    | none => (32 * start + lastDigit c) :: numbersFrom 0 s

def distancesOf (text : List String) : List Nat :=
  numbersFrom 0 (text.flatMap String.toList)

/-- The sums of `start` with the distances so far. -/
def running (start : Nat) : List Nat → List Nat
  | [] => []
  | d :: ds => (start + d) :: running (start + d) ds

def lastCodePoint : Nat := 0x10FFFF

/-- Ranges from the points where they begin and where they have ended. -/
def pairs : List Nat → List (Nat × Nat)
  | low :: next :: points => (low, next - 1) :: pairs points
  | [low] => [(low, lastCodePoint)]
  | [] => []

/-- In the tables a set is written as the distances between the points at which it begins and ends.
Each distance is a number in base 32: capital letters and `wxyz+/` are last digits, and all other
digits stand before one of those. -/
def Property.ranges (p : Property) : List (Nat × Nat) :=
  pairs (running 0 (distancesOf p.text))

def inRanges (ranges : List (Nat × Nat)) (n : Nat) : Bool :=
  ranges.any fun (low, high) => low ≤ n && n ≤ high

theorem le_of_mem_running {start n : Nat} {ds : List Nat} (h : n ∈ running start ds) :
    start ≤ n := by
  induction ds generalizing start with
  | nil => cases h
  | cons d ds ih =>
    rcases List.mem_cons.mp h with heq | hmem
    · omega
    · exact Nat.le_trans (Nat.le_add_right start d) (ih hmem)

theorem fst_mem_of_mem_pairs {range : Nat × Nat} {points : List Nat} (h : range ∈ pairs points) :
    range.1 ∈ points := by
  match points with
  | [] => cases h
  | [low] => simp_all [pairs]
  | low :: next :: points =>
    rcases List.mem_cons.mp h with heq | hmem
    · exact heq ▸ List.mem_cons_self
    · exact List.mem_cons_of_mem low (List.mem_cons_of_mem next (fst_mem_of_mem_pairs hmem))

theorem head?_of_head?_pairs {range : Nat × Nat} {points : List Nat}
    (h : (pairs points).head? = some range) : points.head? = some range.1 := by
  match points with
  | [] => cases h
  | [low] => exact congrArg (Option.map Prod.fst) h
  | low :: next :: points => exact congrArg (Option.map Prod.fst) h

/-- Nothing that comes before the first range is in one. -/
theorem Property.inRanges_of_lt {p : Property} {first : Nat × Nat} {n : Nat}
    (h : p.ranges.head? = some first) (hn : n < first.1) : inRanges p.ranges n = false := by
  have hpoints := head?_of_head?_pairs h
  cases hds : distancesOf p.text with
  | nil =>
    rw [hds] at hpoints
    cases hpoints
  | cons d ds =>
    rw [hds] at hpoints
    have hlow : 0 + d = first.1 := Option.some.inj hpoints
    refine List.any_eq_false.mpr fun range hmem => ?_
    have hrange : first.1 ≤ range.1 := by
      have hpoint := fst_mem_of_mem_pairs hmem
      rw [hds] at hpoint
      rcases List.mem_cons.mp hpoint with heq | hmem
      · omega
      · exact hlow ▸ le_of_mem_running hmem
    simp only [Bool.and_eq_true, decide_eq_true_eq, not_and]
    omega

end AppDef.Unicode
