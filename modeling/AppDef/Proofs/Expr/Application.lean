import AppDef.Proofs.Expr.Guard

namespace AppDef.Expr

variable {mode : Mode} {env : Environment} {e : Expr} {source : String}

theorem not_arity_of_stuck {err : ExprError} (h : Stuck env e err) (f : Function) (count : Nat) :
    err ≠ .arity f count := by
  cases h <;> simp

/-- No evaluation ends at a function that misses a number, or has one too many. -/
theorem eval_ne_arity (h : e.every isApplied = true) (f : Function) (count : Nat) :
    eval mode env e ≠ .error (.arity f count) := by
  intro heval
  cases mode with
  | formula =>
    have hcomes : Comes env e := comes_of_applied e h
    rw [Comes, heval, ends_error] at hcomes
    exact not_arity_of_stuck hcomes f count rfl
  | guard =>
    obtain ⟨a, ha⟩ := eval_guard_value env h
    rw [ha] at heval
    cases heval

/-- A function whose call is well formed has a value for the numbers that its arguments come to. -/
theorem applied_of_evalArguments {f : Function} {args : List Expr} {xs : List Float}
    (hcall : f.arity.allows args.length = true)
    (hargs : evalArguments mode env args = .ok (some xs)) :
    xs.length = args.length ∧
      ∃ x, f.apply? xs = some x ∧ eval mode env (.call f args) = .ok (.number x) := by
  have hlength : xs.length = args.length := length_of_evalArguments hargs
  obtain ⟨x, hx⟩ := Function.apply?_isSome (hlength ▸ hcall)
  exact ⟨hlength, x, hx, by simp [eval, hargs, hx]⟩

/-- In a tree that was read, every call has as many arguments as its function takes. Wherever the
function is applied, it is applied to exactly one number for each argument and has a value for
them, so that no evaluation ends at the count of arguments. -/
theorem calls_get_their_arguments (h : parse source = .ok e) (mode : Mode) (env : Environment) :
    (∀ f args, .call f args ∈ e.nodes → f.arity.allows args.length = true ∧
      ∀ xs, evalArguments mode env args = .ok (some xs) → xs.length = args.length ∧
        ∃ x, f.apply? xs = some x ∧ eval mode env (.call f args) = .ok (.number x)) ∧
    ∀ f count, eval mode env e ≠ .error (.arity f count) := by
  have happlied : e.every isApplied = true := applied_of_parse h
  refine ⟨fun f args hnode => ?_, eval_ne_arity happlied⟩
  have hcall : f.arity.allows args.length = true := every_iff.mp happlied _ hnode
  exact ⟨hcall, fun xs => applied_of_evalArguments hcall⟩

/-- The inner call of two has its number when it is applied. -/
theorem calls_get_their_arguments_nested :
    ∃ e, parse "max(width, abs(length))" = .ok e ∧ .call .abs [.variable "length"] ∈ e.nodes ∧
      ∃ xs, evalArguments .formula (Dict.empty.insert "length" (.bool true))
          [.variable "length"] = .ok (some xs) ∧
        xs.length = 1 ∧ ∃ x, Function.abs.apply? xs = some x := by
  have hp : parse "max(width, abs(length))" =
      .ok (.call .max [.variable "width", .call .abs [.variable "length"]]) := by
    cbv
  have hnode : .call .abs [.variable "length"] ∈
      (Expr.call .max [.variable "width", .call .abs [.variable "length"]]).nodes := by
    simp [nodes, nodesOf]
  have hargs : evalArguments .formula (Dict.empty.insert "length" (.bool true))
      [.variable "length"] = .ok (some [1]) := rfl
  obtain ⟨hcalls, -⟩ :=
    calls_get_their_arguments hp .formula (Dict.empty.insert "length" (.bool true))
  obtain ⟨hlength, x, hx, -⟩ := (hcalls _ _ hnode).2 _ hargs
  exact ⟨_, hp, hnode, _, hargs, hlength, x, hx⟩

end AppDef.Expr
