import AppDef.Expr.Parser
import AppDef.Proofs.Outcome

namespace AppDef

/-- Why a text of `finish` characters is no expression. -/
inductive ExprError.Refuses (finish : Nat) : ExprError → Prop
  | malformed {position} (fault) (hp : position ≤ finish) :
      Refuses finish (.malformed position fault)
  | unknownFunction (name) : Refuses finish (.unknownFunction name)
  | arity (function found) : Refuses finish (.arity function found)

namespace Expr

/-- The lexemes start in a text of `finish` characters. -/
def Inside (finish : Nat) (s : List Lexeme) : Prop :=
  ∀ l ∈ s, l.start ≤ finish

/-- What is read off lexemes of a text leaves lexemes of that text, and so does what is refused. -/
def ReadsInside {α : Type} (finish : Nat) (x : Except ExprError (α × List Lexeme)) : Prop :=
  Ends x (fun r => Inside finish r.2) (ExprError.Refuses finish)

/-- The reading stays inside of any text. -/
def Reading.Stays (finish : Nat) (p : Reading) : Prop :=
  ∀ s, Inside finish s → ReadsInside finish (p s)

variable {finish : Nat} {s rest : List Lexeme} {operand expression unary branch : Reading}

theorem Inside.tail {l : Lexeme} (h : Inside finish (l :: s)) : Inside finish s :=
  fun _ hl => h _ (List.mem_cons_of_mem l hl)

theorem Inside.positionOf (h : Inside finish s) : positionOf finish s ≤ finish := by
  cases s with
  | nil => exact Nat.le_refl _
  | cons l s => exact h l List.mem_cons_self

theorem Inside.refuse {α : Type} (h : Inside finish s) (fault : SyntaxFault)
    {value : α → Prop} : Ends (refuse finish fault s) value (ExprError.Refuses finish) :=
  .malformed fault h.positionOf

theorem Inside.eat? {symbol : Symbol} (h : Inside finish s) (he : eat? symbol s = some rest) :
    Inside finish rest := by
  unfold Expr.eat? at he
  split at he
  · split at he
    · cases he
      exact h.tail
    · cases he
  · cases he

theorem Inside.expect {symbol : Symbol} {fault : SyntaxFault} (h : Inside finish s) :
    Ends (expect finish symbol fault s) (Inside finish) (ExprError.Refuses finish) := by
  unfold Expr.expect
  split
  · exact h.eat? ‹_›
  · exact h.refuse fault

theorem tooDeep_stays : (tooDeep finish).Stays finish :=
  fun _ h => h.refuse .tooDeep

theorem joined_stays {operator? : Token → Option BinaryOp} (ho : operand.Stays finish)
    {fuel : Nat} {left : Expr} (h : Inside finish s) :
    ReadsInside finish (joined operator? operand fuel left s) := by
  induction fuel generalizing left s with
  | zero => exact h
  | succ fuel ih =>
    cases s with
    | nil => exact h
    | cons l s =>
      simp only [joined]
      split
      · exact h
      · exact (ho s h.tail).bind fun r hr => ih hr

theorem level_stays {operator? : Token → Option BinaryOp} (ho : operand.Stays finish) :
    (level operator? operand).Stays finish :=
  fun s h => (ho s h).bind fun _ hr => joined_stays ho hr

theorem binaryLevels_stays (hu : unary.Stays finish) : (binaryLevels unary).Stays finish :=
  level_stays <| level_stays <| level_stays <| level_stays <| level_stays <| level_stays hu

theorem conditionalOver_stays (hb : branch.Stays finish) (hu : unary.Stays finish) :
    (conditionalOver finish branch unary).Stays finish := by
  intro s h
  refine (binaryLevels_stays hu s h).bind fun r hr => ?_
  obtain ⟨condition, s₁⟩ := r
  dsimp only
  split
  · exact hr
  · refine (hb _ (hr.eat? ‹_›)).bind fun t ht => ht.expect.bind fun s₂ hs => ?_
    exact (hb _ hs).bind fun e he => he

theorem moreArguments_stays (he : expression.Stays finish) {fuel : Nat} (h : Inside finish s) :
    ReadsInside finish (moreArguments finish expression fuel s) := by
  induction fuel generalizing s with
  | zero => exact h.refuse .expectedArgumentEnd
  | succ fuel ih =>
    refine (he s h).bind fun r hr => ?_
    obtain ⟨e, s₁⟩ := r
    dsimp only
    split
    · exact (ih (hr.eat? ‹_›)).bind fun es hes => hes
    · exact hr.expect.bind fun s₂ hs => hs

theorem arguments_stays (he : expression.Stays finish) (h : Inside finish s) :
    ReadsInside finish (arguments finish expression s) := by
  unfold arguments
  split
  · exact h.eat? ‹_›
  · exact moreArguments_stays he h

theorem callOf_stays (he : expression.Stays finish) (name : String) :
    (callOf finish expression name).Stays finish := by
  intro s h
  unfold callOf
  split
  · exact .unknownFunction name
  · rename_i f _
    refine (arguments_stays he h).bind fun r hr => ?_
    obtain ⟨args, s₁⟩ := r
    dsimp only
    split
    · exact hr
    · exact .arity f args.length

theorem primary_stays (he : expression.Stays finish) : (primary finish expression).Stays finish := by
  intro s h
  cases s with
  | nil => exact h.refuse .unexpectedEnd
  | cons l s =>
    unfold primary
    dsimp only
    split
    · exact h.tail
    · exact h.tail
    · exact (he s h.tail).bind fun r hr => hr.expect.bind fun s₁ hs => hs
    · exact h.refuse _
    · exact h.tail
    · exact h.tail
    · split
      · exact callOf_stays he _ _ (h.tail.eat? ‹_›)
      · exact h.tail

theorem powerOver_stays (ho : operand.Stays finish) (he : expression.Stays finish) :
    (powerOver finish operand expression).Stays finish := by
  intro s h
  refine (primary_stays he s h).bind fun r hr => ?_
  obtain ⟨base, s₁⟩ := r
  dsimp only
  split
  · exact hr
  · exact (ho _ (hr.eat? ‹_›)).bind fun e hexp => hexp

theorem unaryOver_stays (ho : operand.Stays finish) (he : expression.Stays finish) :
    (unaryOver finish operand expression).Stays finish := by
  intro s h
  unfold unaryOver
  split
  · exact (ho s.tail fun l hl => h l (List.mem_of_mem_tail hl)).bind fun r hr => hr
  · exact powerOver_stays ho he s h

theorem expressionIn_stays (finish n : Nat) :
    (expressionIn finish n).Stays finish ∧ (unaryIn finish n).Stays finish := by
  induction n with
  | zero =>
    rw [expressionIn, unaryIn]
    exact ⟨tooDeep_stays, unaryOver_stays tooDeep_stays tooDeep_stays⟩
  | succ n ih =>
    rw [expressionIn, unaryIn]
    have hnext := conditionalOver_stays ih.1 ih.2
    exact ⟨hnext, unaryOver_stays ih.2 hnext⟩

theorem lexFrom_ends {position taken finish : Nat} {s : List Char}
    (h : position + s.length ≤ finish) :
    Ends (lexFrom position taken s) (Inside finish) (ExprError.Refuses finish) := by
  induction s generalizing position taken with
  | nil => cases taken <;> exact fun l hl => absurd hl List.not_mem_nil
  | cons c s ih =>
    rw [List.length_cons] at h
    have htail {taken : Nat} : Ends (lexFrom (position + 1) taken s) (Inside finish)
        (ExprError.Refuses finish) := ih (by omega)
    cases taken with
    | succ taken => exact htail
    | zero =>
      unfold lexFrom
      split
      · exact htail
      · split
        · exact .malformed _ (by omega)
        · rename_i token more _
          have hmore := @htail more
          cases hr : lexFrom (position + 1) more s with
          | error e =>
            rw [hr] at hmore
            exact hmore
          | ok rest =>
            rw [hr] at hmore
            exact List.forall_mem_cons.mpr ⟨by dsimp only; omega, hmore⟩

/-- A text that is no expression is refused for what stands in it. -/
theorem refuses_of_parse_error {source : String} {e : ExprError} (h : parse source = .error e) :
    e.Refuses source.toList.length := by
  have hends : Ends (parse source) (fun _ => True) (ExprError.Refuses source.toList.length) := by
    refine (lexFrom_ends (by simp)).bind fun lexemes hl => ?_
    dsimp only
    split
    · exact .malformed .empty (Nat.zero_le _)
    · refine ((expressionIn_stays _ maxDepth).1 _ hl).bind fun r hr => ?_
      obtain ⟨e, rest⟩ := r
      cases rest with
      | nil => trivial
      | cons l rest => exact hr.refuse _
  rw [h] at hends
  exact hends

end Expr

end AppDef
