import AppDef.Expr.Parser

namespace AppDef.Expr

/-- The levels of binary operators, from the loosest to the tightest. -/
inductive Level where
  | disjunction
  | conjunction
  | equality
  | ordering
  | additive
  | multiplicative
  deriving DecidableEq, Repr

/-- The tokens that join two operands on a level, and the operator each writes. -/
inductive Level.Joins : Level → Token → BinaryOp → Prop
  | orSymbol : Joins .disjunction (.symbol .orOr) .or
  | orWord : Joins .disjunction (.name "or") .or
  | andSymbol : Joins .conjunction (.symbol .andAnd) .and
  | andWord : Joins .conjunction (.name "and") .and
  | equal : Joins .equality (.symbol .equal) (.comparison .equal)
  | notEqual : Joins .equality (.symbol .notEqual) (.comparison .notEqual)
  | less : Joins .ordering (.symbol .less) (.comparison .less)
  | lessEqual : Joins .ordering (.symbol .lessEqual) (.comparison .lessEqual)
  | greater : Joins .ordering (.symbol .greater) (.comparison .greater)
  | greaterEqual : Joins .ordering (.symbol .greaterEqual) (.comparison .greaterEqual)
  | plus : Joins .additive (.symbol .plus) (.arithmetic .add)
  | minus : Joins .additive (.symbol .minus) (.arithmetic .subtract)
  | star : Joins .multiplicative (.symbol .star) (.arithmetic .multiply)
  | slash : Joins .multiplicative (.symbol .slash) (.arithmetic .divide)
  | percent : Joins .multiplicative (.symbol .percent) (.arithmetic .remainder)

/-- The tokens that stand before an operand, and the operator each writes. -/
inductive Prefixes : Token → PrefixOp → Prop
  | minus : Prefixes (.symbol .minus) .negate
  | plus : Prefixes (.symbol .plus) .plus
  | bang : Prefixes (.symbol .bang) .not
  | word : Prefixes (.name "not") .not

/-- Words that are no variables, because they mean something else where an operand may stand. -/
def reserved : List String :=
  ["true", "false", "not"]

/-- A function is called by its name, before which one `Math.` may stand. -/
def Function.CalledBy (f : Function) (name : String) : Prop :=
  name = f.name ∨ name = "Math." ++ f.name

inductive Category where
  | expression
  | joined (level : Level)
  /-- What stands behind a prefix operator or behind `**`. -/
  | operand
  | unary
  | power
  | primary

/-- What the operators of a level join. -/
def Level.part : Level → Category
  | .disjunction => .joined .conjunction
  | .conjunction => .joined .equality
  | .equality => .joined .ordering
  | .ordering => .joined .additive
  | .additive => .joined .multiplicative
  | .multiplicative => .unary

/-- `Derives c n ts e`: the tokens `ts` write the tree `e` as a `c`, with at most `n` expressions
and operands open at once. -/
inductive Derives : Category → Nat → List Token → Expr → Prop
  | plain {n ts e} : Derives (.joined .disjunction) n ts e → Derives .expression (n + 1) ts e
  | conditional {n cs ts es c t e} : Derives (.joined .disjunction) n cs c →
      Derives .expression n ts t → Derives .expression n es e →
      Derives .expression (n + 1)
        (cs ++ .symbol .question :: (ts ++ .symbol .colon :: es)) (.conditional c t e)
  | single {l n ts e} : Derives l.part n ts e → Derives (.joined l) n ts e
  | binary {l n ls rs tok op left right} : Derives (.joined l) n ls left → l.Joins tok op →
      Derives l.part n rs right → Derives (.joined l) n (ls ++ tok :: rs) (.binary op left right)
  | opened {n ts e} : Derives .unary n ts e → Derives .operand (n + 1) ts e
  | prefixed {n ts tok op e} : Prefixes tok op → Derives .operand n ts e →
      Derives .unary n (tok :: ts) (.unary op e)
  | bare {n ts e} : Derives .power n ts e → Derives .unary n ts e
  | base {n ts e} : Derives .primary n ts e → Derives .power n ts e
  | raised {n bs es base exponent} : Derives .primary n bs base → Derives .operand n es exponent →
      Derives .power n (bs ++ .symbol .starStar :: es) (.binary (.arithmetic .power) base exponent)
  | number (n x) : Derives .primary n [.number x] (.number x)
  | text (n s) : Derives .primary n [.text s] (.text s)
  | literalTrue (n) : Derives .primary n [.name "true"] (.bool true)
  | literalFalse (n) : Derives .primary n [.name "false"] (.bool false)
  | named (n) {name} : name ∉ reserved → Derives .primary n [.name name] (.variable name)
  | group {n ts e} : Derives .expression n ts e →
      Derives .primary n (.symbol .openParen :: (ts ++ [.symbol .closeParen])) e
  | call {n name f} {args : List (List Token × Expr)} : f.CalledBy name →
      f.arity.allows args.length = true → (∀ a ∈ args, Derives .expression n a.1 a.2) →
      Derives .primary n
        (.name name :: .symbol .openParen ::
          ([.symbol .comma].intercalate (args.map (·.1)) ++ [.symbol .closeParen]))
        (.call f (args.map (·.2)))

/-- Room that is not used does no harm. -/
theorem Derives.mono {c : Category} {n : Nat} {ts : List Token} {e : Expr}
    (h : Derives c n ts e) : ∀ m, n ≤ m → Derives c m ts e := by
  induction h with
  | plain _ ih =>
    intro m hm
    obtain ⟨m, rfl⟩ := Nat.exists_eq_add_one_of_ne_zero (by omega : m ≠ 0)
    exact .plain (ih m (by omega))
  | conditional _ _ _ ihc iht ihe =>
    intro m hm
    obtain ⟨m, rfl⟩ := Nat.exists_eq_add_one_of_ne_zero (by omega : m ≠ 0)
    exact .conditional (ihc m (by omega)) (iht m (by omega)) (ihe m (by omega))
  | opened _ ih =>
    intro m hm
    obtain ⟨m, rfl⟩ := Nat.exists_eq_add_one_of_ne_zero (by omega : m ≠ 0)
    exact .opened (ih m (by omega))
  | single _ ih => exact fun m hm => .single (ih m hm)
  | binary _ hop _ ihl ihr => exact fun m hm => .binary (ihl m hm) hop (ihr m hm)
  | prefixed hop _ ih => exact fun m hm => .prefixed hop (ih m hm)
  | bare _ ih => exact fun m hm => .bare (ih m hm)
  | base _ ih => exact fun m hm => .base (ih m hm)
  | raised _ _ ihb ihe => exact fun m hm => .raised (ihb m hm) (ihe m hm)
  | number _ x => exact fun m _ => .number m x
  | text _ s => exact fun m _ => .text m s
  | literalTrue _ => exact fun m _ => .literalTrue m
  | literalFalse _ => exact fun m _ => .literalFalse m
  | named _ h => exact fun m _ => .named m h
  | group _ ih => exact fun m hm => .group (ih m hm)
  | call hf ha _ ih => exact fun m hm => .call hf ha fun a h => ih a h m hm

/-- Operands joined by operators of any levels, without regard to how they bind. -/
inductive Chain (n : Nat) : List Token → Prop
  | operand {ts e} : Derives .unary n ts e → Chain n ts
  | join {ls rs l tok op e} : Chain n ls → Level.Joins l tok op → Derives .unary n rs e →
      Chain n (ls ++ tok :: rs)

/-- How tightly the operators of a level bind. -/
def Level.grip : Level → Nat
  | .disjunction => 2
  | .conjunction => 3
  | .equality => 4
  | .ordering => 5
  | .additive => 6
  | .multiplicative => 7

theorem Level.grip_injective {l m : Level} (h : l.grip = m.grip) : l = m := by
  cases l <;> cases m <;> first | rfl | cases h

/-- Below the tightest level, an operator joins what the operators of the next level join. -/
theorem Level.part_of_grip_lt {l m : Level} (h : l.grip < m.grip) :
    ∃ l' : Level, l.part = .joined l' ∧ l'.grip = l.grip + 1 := by
  cases l with
  | disjunction => exact ⟨.conjunction, rfl, rfl⟩
  | conjunction => exact ⟨.equality, rfl, rfl⟩
  | equality => exact ⟨.ordering, rfl, rfl⟩
  | ordering => exact ⟨.additive, rfl, rfl⟩
  | additive => exact ⟨.multiplicative, rfl, rfl⟩
  | multiplicative => cases m <;> simp [grip] at h

theorem Derives.part {n : Nat} {ts : List Token} {e : Expr} (h : Derives .unary n ts e)
    (l : Level) : Derives l.part n ts e := by
  cases l with
  | multiplicative => exact h
  | additive => exact .single h
  | ordering => exact .single (.single h)
  | equality => exact .single (.single (.single h))
  | conjunction => exact .single (.single (.single (.single h)))
  | disjunction => exact .single (.single (.single (.single (.single h))))

/-- One more operand behind a phrase: an operator that binds tighter than the phrase goes into
its last part, any other one takes the whole phrase. -/
theorem Derives.extend {n : Nat} {m : Level} {tok : Token} {op : BinaryOp} {rs : List Token}
    {right : Expr} (hop : m.Joins tok op) (hr : Derives .unary n rs right) (l : Level)
    (hl : l.grip ≤ m.grip) {ls : List Token} {left : Expr} (h : Derives (.joined l) n ls left) :
    ∃ e, Derives (.joined l) n (ls ++ tok :: rs) e := by
  by_cases he : l = m
  · subst he
    exact ⟨_, .binary h hop (hr.part l)⟩
  · have hlt : l.grip < m.grip :=
      Nat.lt_of_le_of_ne hl fun hg => he (Level.grip_injective hg)
    obtain ⟨l', hpart, hgrip⟩ := Level.part_of_grip_lt hlt
    cases h with
    | single hs =>
      rw [hpart] at hs
      obtain ⟨e, hs⟩ := Derives.extend hop hr l' (by omega) hs
      exact ⟨e, .single (hpart ▸ hs)⟩
    | binary hleft hjoin hright =>
      rw [hpart] at hright
      obtain ⟨e, hright⟩ := Derives.extend hop hr l' (by omega) hright
      have hb := Derives.binary hleft hjoin (hpart ▸ hright)
      exact ⟨_, by simpa only [List.append_assoc, List.cons_append] using hb⟩
termination_by m.grip - l.grip

/-- A chain of any length needs no more room than its operands. -/
theorem Chain.derives {n : Nat} {ts : List Token} (h : Chain n ts) :
    ∃ e, Derives .expression (n + 1) ts e := by
  have hj : ∃ e, Derives (.joined .disjunction) n ts e := by
    induction h with
    | operand h => exact ⟨_, .single (h.part .disjunction)⟩
    | @join _ _ l _ _ _ _ hop hr ih =>
      obtain ⟨left, ih⟩ := ih
      exact Derives.extend hop hr .disjunction (by cases l <;> decide) ih
  obtain ⟨e, hj⟩ := hj
  exact ⟨e, .plain hj⟩

end AppDef.Expr
