import AppDef.Expr.Eval
import AppDef.Proofs.Expr.Height

namespace AppDef.Expr

variable {α : Type} {step : (Expr → α) → Expr → α} {walk : Expr → α} {e : Expr} {mode : Mode}
  {env : Environment}

/-- The walk over a tree is `step` with itself for the recursive calls, and these go to operands
only. -/
structure Recurses (step : (Expr → α) → Expr → α) (walk : Expr → α) : Prop where
  unfolds : ∀ e, walk e = step walk e
  descends : ∀ e self self', (∀ a ∈ e.operands, self a = self' a) → step self e = step self' e

/-- The walk on a stack with room for so many open calls; `beyond` is what comes of one more. -/
def within (step : (Expr → α) → Expr → α) (beyond : Expr → α) : (room : Nat) → Expr → α
  | 0 => beyond
  | room + 1 => step (within step beyond room)

theorem Recurses.within_eq (h : Recurses step walk) (beyond : Expr → α) {room : Nat}
    (hroom : e.height < room) : within step beyond room e = walk e := by
  induction room generalizing e with
  | zero => cases hroom
  | succ room ih =>
    rw [within, h.unfolds e]
    refine h.descends _ _ _ fun a ha => ih ?_
    have := height_lt_of_operand ha
    omega

/-- One call of the evaluator. -/
def evalStep (mode : Mode) (env : Environment) (self : Expr → Except ExprError Scalar) :
    Expr → Except ExprError Scalar
  | .number x => .ok (.number x)
  | .text s => .ok (.text s)
  | .bool b => .ok (.bool b)
  | .variable name =>
    match env.get? name, mode with
    | some v, _ => .ok (Scalar.ofJson v)
    | none, .guard => .ok .missing
    | none, .formula => .error (.unknownVariable name)
  | .unary op e => do
    let a ← self e
    match op with
    | .not => return .bool !a.truthy
    | .negate => return ofNumber? ((← numeric mode e a).map (- ·))
    | .plus => return ofNumber? (← numeric mode e a)
  | .binary .and l r => do
    let a ← self l
    if a.truthy then self r else return a
  | .binary .or l r => do
    let a ← self l
    if a.truthy then return a else self r
  | .binary (.comparison op) l r => do
    let a ← self l
    let b ← self r
    return .bool (op.holds a b)
  | .binary (.arithmetic op) l r => do
    let a ← self l
    let b ← self r
    match ← numeric mode l a, ← numeric mode r b with
    | some x, some y => return .number (op.apply x y)
    | _, _ => return .missing
  | .conditional c t e => do
    let a ← self c
    if a.truthy then self t else self e
  | .call f args => do
    match ← numbers mode self args with
    | none => return .missing
    | some xs =>
      match f.apply? xs with
      | some x => return .number x
      | none => .error (.arity f xs.length)
where
  /-- The numbers of all arguments, up to the first that is missing. -/
  numbers (mode : Mode) (self : Expr → Except ExprError Scalar) :
      List Expr → Except ExprError (Option (List Float))
    | [] => .ok (some [])
    | e :: es => do
      let a ← self e
      match ← numeric mode e a with
      | none => return none
      | some x => return (← numbers mode self es).map (x :: ·)

theorem evalArguments_eq_numbers (args : List Expr) :
    evalArguments mode env args = evalStep.numbers mode (eval mode env) args := by
  induction args with
  | nil => rfl
  | cons a args ih =>
    rw [evalArguments, ih]
    rfl

theorem numbers_congr {self self' : Expr → Except ExprError Scalar} {args : List Expr}
    (h : ∀ a ∈ args, self a = self' a) :
    evalStep.numbers mode self args = evalStep.numbers mode self' args := by
  induction args with
  | nil => rfl
  | cons a args ih =>
    obtain ⟨ha, hargs⟩ := List.forall_mem_cons.mp h
    simp only [evalStep.numbers, ha, ih hargs]

theorem recurses_eval (mode : Mode) (env : Environment) :
    Recurses (evalStep mode env) (eval mode env) where
  unfolds e := by
    induction e with
    | number | text | bool => simp only [eval, evalStep]
    | named | unary =>
      simp only [eval]
      rfl
    | binary op l r _ _ =>
      cases op with
      | and | or | comparison => simp only [eval, evalStep]
      | arithmetic =>
        simp only [eval]
        rfl
    | conditional c t e _ _ _ => simp only [eval, evalStep]
    | call f args _ =>
      simp only [eval, evalArguments_eq_numbers]
      rfl
  descends e self self' h := by
    induction e with
    | number | text | bool | named => rfl
    | unary op a _ => simp only [evalStep, h a List.mem_cons_self]
    | binary op l r _ _ =>
      obtain ⟨hl, hr⟩ : self l = self' l ∧ self r = self' r := by simpa [operands] using h
      cases op <;> simp only [evalStep, hl, hr]
    | conditional c t e _ _ _ =>
      obtain ⟨hc, ht, he⟩ : self c = self' c ∧ self t = self' t ∧ self e = self' e := by
        simpa [operands] using h
      simp only [evalStep, hc, ht, he]
    | call f args _ =>
      have hargs : ∀ a ∈ args, self a = self' a := h
      simp only [evalStep, numbers_congr hargs]

/-- One call of the collection of names. -/
def mentionsStep (self : Expr → List String) : Expr → List String
  | .variable name => [name]
  | e => e.operands.flatMap self

theorem mentionsAll_eq (args : List Expr) : mentionsAll args = args.flatMap mentions := by
  induction args with
  | nil => rfl
  | cons a args ih => rw [mentionsAll, ih, List.flatMap_cons]

theorem recurses_mentions : Recurses mentionsStep mentions where
  unfolds e := by
    induction e with
    | number | text | bool | named => rfl
    | unary op a _ => simp [mentions, mentionsStep, operands]
    | binary op l r _ _ => simp [mentions, mentionsStep, operands]
    | conditional c t e _ _ _ => simp [mentions, mentionsStep, operands]
    | call f args _ => exact mentionsAll_eq args
  descends e self self' h := by
    have hoperands : e.operands.flatMap self = e.operands.flatMap self' :=
      List.flatMap_congr h
    induction e with
    | named => rfl
    | _ => exact hoperands

/-- No way down the tree of a text takes more than 576 steps but those to the left along chains. So
where no more than `k` chained operators follow one another, the tree is no higher than that many
times `k + 1` and `k` more, and the evaluator and the collection of names never have more calls open
than one for each level of it. -/
theorem recursion_bounded_but_for_chains {source : String} (h : parse source = .ok e) :
    e.nesting ≤ 9 * maxDepth ∧ ∀ k, (∀ a ∈ e.nodes, a.spine ≤ k) →
      e.height ≤ 9 * maxDepth * (k + 1) + k ∧
      (∀ mode env beyond,
        within (evalStep mode env) beyond ((9 * maxDepth + 1) * (k + 1)) e = eval mode env e) ∧
      ∀ beyond, within mentionsStep beyond ((9 * maxDepth + 1) * (k + 1)) e = e.mentions := by
  have hnesting : e.nesting ≤ 9 * maxDepth := nesting_of_parse h
  refine ⟨hnesting, fun k hk => ?_⟩
  have hheight : e.height ≤ 9 * maxDepth * (k + 1) + k := by
    have hspine : e.spine ≤ k := hk e (mem_nodes_self e)
    have hmul : e.nesting * (k + 1) ≤ 9 * maxDepth * (k + 1) := Nat.mul_le_mul_right _ hnesting
    have := height_le hk
    omega
  have hroom : e.height < (9 * maxDepth + 1) * (k + 1) := by
    rw [Nat.succ_mul]
    omega
  exact ⟨hheight, fun mode env beyond => (recurses_eval mode env).within_eq beyond hroom,
    fun beyond => recurses_mentions.within_eq beyond hroom⟩

/-- A sum within a product: on the way to the left, two chained operators follow one another. -/
theorem recursion_bounded_but_for_chains_product :
    ∃ e, parse "(a + b) * c" = .ok e ∧ e.nesting ≤ 9 * maxDepth ∧
      (∀ a ∈ e.nodes, a.spine ≤ 2) ∧ e.height ≤ 9 * maxDepth * 3 + 2 := by
  have hp : parse "(a + b) * c" = .ok (.binary (.arithmetic .multiply)
      (.binary (.arithmetic .add) (.variable "a") (.variable "b")) (.variable "c")) := by
    cbv
  have hchains : ∀ a ∈ (Expr.binary (.arithmetic .multiply)
      (.binary (.arithmetic .add) (.variable "a") (.variable "b")) (.variable "c")).nodes,
      a.spine ≤ 2 := by
    simp [nodes, spine, BinaryOp.isChained]
  obtain ⟨hnesting, hbounded⟩ := recursion_bounded_but_for_chains hp
  exact ⟨_, hp, hnesting, hchains, (hbounded 2 hchains).1⟩

/-- The limit on open productions is no limit on the height of what is read. -/
theorem height_unbounded :
    ¬ ∃ bound, ∀ source e, parse source = .ok e → e.height ≤ bound := by
  rintro ⟨bound, h⟩
  have hheight := h _ _ (parse_sum (bound + 1))
  rw [height_sum] at hheight
  omega

end AppDef.Expr
