import AppDef.Proofs.Expr.Language
import AppDef.Proofs.Expr.Tree

namespace AppDef.Expr

/-- What the operation that an expression is takes. -/
def operands : Expr → List Expr
  | .number _ | .text _ | .bool _ | .variable _ => []
  | .unary _ a => [a]
  | .binary _ l r => [l, r]
  | .conditional c t e => [c, t, e]
  | .call _ args => args

/-- The operator joins the operands of a chain, to the left. -/
def BinaryOp.isChained : BinaryOp → Bool
  | .arithmetic .power => false
  | _ => true

mutual

/-- The most steps that lead down the tree, those to the left operand of a `free` operator not
counted. -/
def depth (free : BinaryOp → Bool) : Expr → Nat
  | .number _ | .text _ | .bool _ | .variable _ => 0
  | .unary _ a => a.depth free + 1
  | .binary op l r => max (l.depth free + if free op then 0 else 1) (r.depth free + 1)
  | .conditional c t e => max (c.depth free) (max (t.depth free) (e.depth free)) + 1
  | .call _ args => depthOf free args

def depthOf (free : BinaryOp → Bool) : List Expr → Nat
  | [] => 0
  | e :: es => max (e.depth free + 1) (depthOf free es)

end

def height (e : Expr) : Nat :=
  e.depth fun _ => false

/-- The height but for chains. -/
def nesting (e : Expr) : Nat :=
  e.depth BinaryOp.isChained

/-- How many chained operators follow one another on the way to the left. -/
def spine : Expr → Nat
  | .binary op l _ => if op.isChained then l.spine + 1 else 0
  | _ => 0

variable {free : BinaryOp → Bool} {a e : Expr} {args : List Expr} {n k : Nat}

theorem operands_induction {motive : Expr → Prop}
    (node : ∀ e, (∀ a ∈ e.operands, motive a) → motive e) (e : Expr) : motive e := by
  induction e with
  | number | text | bool | named => exact node _ (List.forall_mem_nil _)
  | unary op a ih => exact node _ (by simpa [operands] using ih)
  | binary op l r ihl ihr => exact node _ (by simpa [operands] using ⟨ihl, ihr⟩)
  | conditional c t e ihc iht ihe => exact node _ (by simpa [operands] using ⟨ihc, iht, ihe⟩)
  | call f args ih => exact node _ ih

theorem mem_nodes_of_operand {b : Expr} (ha : a ∈ e.operands) (hb : b ∈ a.nodes) :
    b ∈ e.nodes := by
  induction e with
  | number | text | bool | named => cases ha
  | unary op a _ =>
    cases List.mem_singleton.mp ha
    exact List.mem_cons_of_mem _ hb
  | binary op l r _ _ =>
    simp only [operands, List.mem_cons, List.not_mem_nil, or_false] at ha
    rcases ha with rfl | rfl <;> simp [nodes, hb]
  | conditional c t e _ _ _ =>
    simp only [operands, List.mem_cons, List.not_mem_nil, or_false] at ha
    rcases ha with rfl | rfl | rfl <;> simp [nodes, hb]
  | call f args _ => exact List.mem_cons_of_mem _ (mem_nodesOf.mpr ⟨a, ha, hb⟩)

theorem depthOf_le_iff : depthOf free args ≤ n ↔ ∀ a ∈ args, a.depth free < n := by
  induction args with
  | nil => simp [depthOf]
  | cons b args ih => rw [depthOf, Nat.max_le, ih, List.forall_mem_cons, Nat.succ_le_iff]

theorem depth_lt_depthOf (ha : a ∈ args) : a.depth free < depthOf free args :=
  depthOf_le_iff.mp (Nat.le_refl _) a ha

theorem height_le_iff : e.height ≤ n ↔ ∀ a ∈ e.operands, a.height < n := by
  induction e with
  | number | text | bool | named => exact ⟨fun _ => List.forall_mem_nil _, fun _ => Nat.zero_le n⟩
  | unary op a _ =>
    rw [operands, List.forall_mem_singleton]
    exact Nat.succ_le_iff
  | binary op l r _ _ =>
    rw [operands, List.forall_mem_cons, List.forall_mem_singleton]
    exact Nat.max_le.trans (and_congr Nat.succ_le_iff Nat.succ_le_iff)
  | conditional c t e _ _ _ =>
    rw [operands, List.forall_mem_cons, List.forall_mem_cons, List.forall_mem_singleton]
    simp only [height, depth, Nat.succ_le_iff, Nat.max_lt]
  | call f args _ => exact depthOf_le_iff

theorem height_lt_of_operand (ha : a ∈ e.operands) : a.height < e.height :=
  height_le_iff.mp (Nat.le_refl _) a ha

/-- A step down lowers the nesting, or it goes to the left along a chain. -/
theorem nesting_of_operand (ha : a ∈ e.operands) :
    a.nesting < e.nesting ∨ a.nesting ≤ e.nesting ∧ e.spine = a.spine + 1 := by
  induction e with
  | number | text | bool | named => cases ha
  | unary op b _ =>
    cases List.mem_singleton.mp ha
    exact .inl (Nat.lt_succ_self _)
  | binary op l r _ _ =>
    simp only [operands, List.mem_cons, List.not_mem_nil, or_false] at ha
    simp only [nesting, depth, spine]
    rcases ha with rfl | rfl
    · cases op.isChained with
      | true => exact .inr ⟨Nat.le_max_left _ _, rfl⟩
      | false => exact .inl (Nat.lt_of_succ_le (Nat.le_max_left _ _))
    · exact .inl (Nat.lt_of_succ_le (Nat.le_max_right _ _))
  | conditional c t e _ _ _ =>
    simp only [operands, List.mem_cons, List.not_mem_nil, or_false] at ha
    simp only [nesting, depth]
    rcases ha with rfl | rfl | rfl <;> exact .inl (by omega)
  | call f args _ => exact .inl (depth_lt_depthOf ha)

/-- Between two steps that count, no more than `k` go to the left along a chain. -/
theorem height_le (h : ∀ a ∈ e.nodes, a.spine ≤ k) :
    e.height ≤ e.spine + e.nesting * (k + 1) := by
  induction e using operands_induction with
  | node e ih =>
    refine height_le_iff.mpr fun a ha => ?_
    have hnodes : ∀ b ∈ a.nodes, b.spine ≤ k := fun b hb => h b (mem_nodes_of_operand ha hb)
    have hheight := ih a ha hnodes
    have hspine : a.spine ≤ k := hnodes a (mem_nodes_self a)
    rcases nesting_of_operand ha with hlt | ⟨hle, hleft⟩
    · have hmul : (a.nesting + 1) * (k + 1) ≤ e.nesting * (k + 1) := Nat.mul_le_mul_right _ hlt
      rw [Nat.succ_mul] at hmul
      omega
    · have hmul : a.nesting * (k + 1) ≤ e.nesting * (k + 1) := Nat.mul_le_mul_right _ hle
      omega

/-- The nesting that a phrase of the category has with so much room. -/
def Category.ceiling (n : Nat) : Category → Nat
  | .expression | .operand => 9 * n
  | .primary => 9 * n + 1
  | .power | .unary => 9 * n + 2
  | .joined l => 9 * n + 10 - l.grip

theorem Level.ceiling_part (l : Level) :
    l.part.ceiling n + 1 = (Category.joined l).ceiling n := by
  cases l <;> simp [part, Category.ceiling, grip]

theorem Level.Joins.isChained {l : Level} {tok : Token} {op : BinaryOp} (h : l.Joins tok op) :
    op.isChained = true := by
  cases h <;> rfl

theorem Derives.nesting_le {c : Category} {ts : List Token} (h : Derives c n ts e) :
    e.nesting ≤ c.ceiling n := by
  induction h with
  | plain _ ih =>
    simp only [Category.ceiling, Level.grip] at ih ⊢
    omega
  | conditional _ _ _ ihc iht ihe =>
    simp only [Category.ceiling, Level.grip, nesting, depth] at ihc iht ihe ⊢
    omega
  | @single l n ts e _ ih =>
    have := @Level.ceiling_part n l
    omega
  | @binary l n _ _ _ _ _ _ _ hop _ ihl ihr =>
    have := @Level.ceiling_part n l
    simp only [nesting, depth, hop.isChained, if_true] at ihl ihr ⊢
    omega
  | opened _ ih =>
    simp only [Category.ceiling] at ih ⊢
    omega
  | prefixed _ _ ih =>
    simp only [Category.ceiling, nesting, depth] at ih ⊢
    omega
  | bare _ ih => exact ih
  | base _ ih => exact Nat.le_succ_of_le ih
  | raised _ _ ihb ihe =>
    simp only [Category.ceiling, nesting, depth, BinaryOp.isChained] at ihb ihe ⊢
    simp only [Bool.false_eq_true, if_false]
    omega
  | number | text | literalTrue | literalFalse | named => exact Nat.zero_le _
  | group _ ih => exact Nat.le_succ_of_le ih
  | call _ _ _ ih =>
    refine depthOf_le_iff.mpr fun a ha => ?_
    obtain ⟨arg, harg, rfl⟩ := List.mem_map.mp ha
    exact Nat.lt_succ_of_le (ih arg harg)

theorem nesting_of_parse {source : String} (h : parse source = .ok e) :
    e.nesting ≤ 9 * maxDepth := by
  obtain ⟨_, _, hd⟩ := parse_iff_derives.mp h
  exact hd.nesting_le

/-- Behind a first operand, so many more joined to it. -/
def moreTerms : Nat → List Char
  | 0 => []
  | n + 1 => '+' :: 'a' :: moreTerms n

/-- The tree of a sum of equal terms. -/
def sum : Nat → Expr
  | 0 => .variable "a"
  | n + 1 => .binary (.arithmetic .add) (sum n) (.variable "a")

theorem height_sum (n : Nat) : (sum n).height = n := by
  induction n with
  | zero => rfl
  | succ n ih =>
    simp only [height] at ih
    simp only [sum, height, depth, Bool.false_eq_true, if_false, ih]
    omega

theorem lexFrom_moreTerms (position n : Nat) : ∃ lexemes,
    lexFrom position 0 (moreTerms n) = .ok lexemes ∧ lexemes.map (·.token) =
      (List.replicate n [Token.symbol .plus, .name "a"]).flatten := by
  induction n generalizing position with
  | zero => exact ⟨[], rfl, rfl⟩
  | succ n ih =>
    obtain ⟨lexemes, hlex, htokens⟩ := ih (position + 2)
    have hplus (s : List Char) : token '+' ('a' :: s) = .ok (.symbol .plus, 0) := rfl
    have hname : token 'a' (moreTerms n) = .ok (.name "a", 0) := by
      cases n <;> rfl
    have hblanks : Text.isBlank '+' = false ∧ Text.isBlank 'a' = false := by decide
    refine ⟨⟨.symbol .plus, position, 1⟩ :: ⟨.name "a", position + 1, 1⟩ :: lexemes, ?_, ?_⟩
    · simp [moreTerms, lexFrom, hblanks, hplus, hname, hlex]
    · simp [List.replicate_succ, htokens]

theorem derives_sum (n room : Nat) : Derives (.joined .additive) room
    (.name "a" :: (List.replicate n [Token.symbol .plus, .name "a"]).flatten) (sum n) := by
  have hterm : Derives (.joined .multiplicative) room [.name "a"] (.variable "a") :=
    .single (.bare (.base (.named room (by decide))))
  induction n with
  | zero => exact .single hterm
  | succ n ih =>
    rw [List.replicate_succ', List.flatten_append, List.flatten_singleton, ← List.cons_append]
    exact .binary ih .plus hterm

/-- Sums of any length are read, each as a tree that is as high as it is long. -/
theorem parse_sum (n : Nat) : parse (String.ofList ('a' :: moreTerms n)) = .ok (sum n) := by
  obtain ⟨lexemes, hlex, htokens⟩ := lexFrom_moreTerms 1 n
  have hname : token 'a' (moreTerms n) = .ok (.name "a", 0) := by
    cases n <;> rfl
  have hsum : Derives (.joined .disjunction) 63 _ (sum n) :=
    .single (.single (.single (.single (derives_sum n 63))))
  refine parse_iff_derives.mpr ⟨⟨.name "a", 0, 1⟩ :: lexemes, ?_, ?_⟩
  · have hblank : Text.isBlank 'a' = false := by decide
    simp [lex, lexFrom, hblank, hname, hlex]
  · rw [List.map_cons, htokens]
    exact .plain hsum

end AppDef.Expr
