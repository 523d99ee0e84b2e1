import AppDef.Proofs.Dict
import AppDef.Proofs.Expr.Language

namespace AppDef.Expr

/-- In the case of a call, all of its arguments are known to be of the kind. -/
@[elab_as_elim, induction_eliminator]
theorem induction {motive : Expr → Prop} (number : ∀ x, motive (.number x))
    (text : ∀ s, motive (.text s)) (bool : ∀ b, motive (.bool b))
    (named : ∀ name, motive (.variable name))
    (unary : ∀ op a, motive a → motive (.unary op a))
    (binary : ∀ op l r, motive l → motive r → motive (.binary op l r))
    (conditional : ∀ c t e, motive c → motive t → motive e → motive (.conditional c t e))
    (call : ∀ f args, (∀ a ∈ args, motive a) → motive (.call f args)) (e : Expr) : motive e :=
  @Expr.rec motive (fun es => ∀ a ∈ es, motive a) number text bool named unary binary conditional
    call (fun _ h => absurd h List.not_mem_nil)
    (fun _ _ hhead htail => List.forall_mem_cons.mpr ⟨hhead, htail⟩) e

variable {p : Expr → Bool} {e : Expr} {es : List Expr}

mutual

/-- The node and all nodes below it are of the kind. -/
def every (p : Expr → Bool) : Expr → Bool
  | .number x => p (.number x)
  | .text s => p (.text s)
  | .bool b => p (.bool b)
  | .variable name => p (.variable name)
  | .unary op a => p (.unary op a) && every p a
  | .binary op l r => p (.binary op l r) && every p l && every p r
  | .conditional c t e => p (.conditional c t e) && every p c && every p t && every p e
  | .call f args => p (.call f args) && everyOf p args

def everyOf (p : Expr → Bool) : List Expr → Bool
  | [] => true
  | e :: es => every p e && everyOf p es

end

theorem everyOf_iff : everyOf p es = true ↔ ∀ e ∈ es, e.every p = true := by
  induction es with
  | nil => simp [everyOf]
  | cons e es ih => simp [everyOf, ih]

@[simp] theorem every_unary {op : PrefixOp} {a : Expr} :
    (unary op a).every p = true ↔ p (.unary op a) = true ∧ a.every p = true := by
  simp [every]

@[simp] theorem every_binary {op : BinaryOp} {l r : Expr} : (binary op l r).every p = true ↔
    p (.binary op l r) = true ∧ l.every p = true ∧ r.every p = true := by
  simp [every, and_assoc]

@[simp] theorem every_conditional {c t e : Expr} : (conditional c t e).every p = true ↔
    p (.conditional c t e) = true ∧ c.every p = true ∧ t.every p = true ∧ e.every p = true := by
  simp [every, and_assoc]

@[simp] theorem every_call {f : Function} {args : List Expr} : (call f args).every p = true ↔
    p (.call f args) = true ∧ ∀ a ∈ args, a.every p = true := by
  simp [every, everyOf_iff]

mutual

/-- The node and all nodes below it. -/
def nodes : Expr → List Expr
  | .number x => [.number x]
  | .text s => [.text s]
  | .bool b => [.bool b]
  | .variable name => [.variable name]
  | .unary op a => .unary op a :: a.nodes
  | .binary op l r => .binary op l r :: (l.nodes ++ r.nodes)
  | .conditional c t e => .conditional c t e :: (c.nodes ++ (t.nodes ++ e.nodes))
  | .call f args => .call f args :: nodesOf args

def nodesOf : List Expr → List Expr
  | [] => []
  | e :: es => e.nodes ++ nodesOf es

end

theorem mem_nodesOf {a : Expr} : a ∈ nodesOf es ↔ ∃ e ∈ es, a ∈ e.nodes := by
  induction es with
  | nil => simp [nodesOf]
  | cons e es ih => simp [nodesOf, ih]

theorem mem_nodes_self (e : Expr) : e ∈ e.nodes := by
  cases e <;> exact List.mem_cons_self

theorem every_iff : e.every p = true ↔ ∀ a ∈ e.nodes, p a = true := by
  induction e with
  | number | text | bool | named => simp [every, nodes]
  | unary op a ih => simp [nodes, ih]
  | binary op l r ihl ihr => simp [nodes, ihl, ihr, or_imp, forall_and]
  | conditional c t e ihc iht ihe => simp [nodes, ihc, iht, ihe, or_imp, forall_and]
  | call f args ih =>
    have hargs : (∀ a ∈ args, a.every p = true) ↔ ∀ a ∈ nodesOf args, p a = true := by
      simp only [mem_nodesOf]
      constructor
      · rintro h a ⟨arg, harg, ha⟩
        exact (ih arg harg).mp (h arg harg) a ha
      · exact fun h arg harg => (ih arg harg).mpr fun a ha => h a ⟨arg, harg, ha⟩
    rw [every_call, hargs, nodes, List.forall_mem_cons]

theorem mem_mentionsAll {name : String} :
    name ∈ mentionsAll es ↔ ∃ e ∈ es, name ∈ e.mentions := by
  induction es with
  | nil => simp [mentionsAll]
  | cons e es ih => simp [mentionsAll, ih]

theorem mem_variableNames {name : String} : name ∈ e.variableNames ↔ name ∈ e.mentions := by
  simp [variableNames, Dict.mem_keys_ofList]

/-- A call has as many arguments as its function takes. -/
def isApplied : Expr → Bool
  | .call f args => f.arity.allows args.length
  | _ => true

theorem Derives.applied {c : Category} {n : Nat} {ts : List Token} (h : Derives c n ts e) :
    e.every isApplied = true := by
  induction h with
  | plain _ ih | single _ ih | opened _ ih | bare _ ih | base _ ih | group _ ih => exact ih
  | number | text | literalTrue | literalFalse | named => rfl
  | conditional _ _ _ ihc iht ihe => exact every_conditional.mpr ⟨rfl, ihc, iht, ihe⟩
  | binary _ _ _ ihl ihr => exact every_binary.mpr ⟨rfl, ihl, ihr⟩
  | prefixed _ _ ih => exact every_unary.mpr ⟨rfl, ih⟩
  | raised _ _ ihb ihe => exact every_binary.mpr ⟨rfl, ihb, ihe⟩
  | call _ ha _ ih =>
    refine every_call.mpr ⟨by simpa [isApplied] using ha, ?_⟩
    intro a hm
    obtain ⟨arg, harg, rfl⟩ := List.mem_map.mp hm
    exact ih arg harg

theorem applied_of_parse {source : String} (h : parse source = .ok e) :
    e.every isApplied = true := by
  obtain ⟨_, _, hd⟩ := parse_iff_derives.mp h
  exact hd.applied

end AppDef.Expr
