import AppDef.Proofs.Expr.Grammar
import AppDef.Proofs.Outcome

namespace AppDef.Expr

def Level.operator? : Level → Token → Option BinaryOp
  | .disjunction => disjunction?
  | .conjunction => conjunction?
  | .equality => equality?
  | .ordering => ordering?
  | .additive => additive?
  | .multiplicative => multiplicative?

theorem Level.operator?_eq_some_iff {l : Level} {tok : Token} {op : BinaryOp} :
    l.operator? tok = some op ↔ l.Joins tok op := by
  constructor
  · intro h
    cases l
    all_goals
      simp only [operator?, disjunction?, conjunction?, equality?, ordering?, additive?,
        multiplicative?] at h
      split at h
    all_goals
      cases h
      try constructor
  · intro h
    cases h <;> rfl

theorem prefixOp?_eq_some_iff {tok : Token} {op : PrefixOp} :
    prefixOp? tok = some op ↔ Prefixes tok op := by
  constructor
  · intro h
    unfold prefixOp? at h
    split at h <;> cases h <;> constructor
  · intro h
    cases h <;> rfl

theorem Function.lookup?_eq_some_iff {name : String} {f : Function} :
    lookup? name = some f ↔ f.CalledBy name := by
  constructor
  · intro h
    have hb : f.name = bareName name := by simpa using List.find?_some h
    unfold bareName at hb
    split at hb
    · rename_i rest hn
      right
      rw [← String.toList_inj, hb, hn]
      simp
    · exact .inl hb.symm
  · rintro (rfl | rfl) <;> cases f <;> decide

theorem eat?_eq_some_iff {symbol : Symbol} {s rest : List Lexeme} :
    eat? symbol s = some rest ↔ ∃ l, s = l :: rest ∧ l.token = .symbol symbol := by
  constructor
  · intro h
    unfold eat? at h
    split at h
    · split at h
      · cases h
        subst symbol
        exact ⟨_, rfl, rfl⟩
      · cases h
    · cases h
  · rintro ⟨⟨tok, start, width⟩, rfl, rfl⟩
    simp [eat?]

theorem expect_eq_ok_iff {finish : Nat} {symbol : Symbol} {fault : SyntaxFault}
    {s rest : List Lexeme} :
    expect finish symbol fault s = .ok rest ↔ ∃ l, s = l :: rest ∧ l.token = .symbol symbol := by
  rw [← eat?_eq_some_iff]
  unfold expect
  cases eat? symbol s <;> simp [refuse]

/-- Whatever the reading takes is a phrase of the category. -/
def Reading.Sound (p : Reading) (c : Category) (n : Nat) : Prop :=
  ∀ s rest e, p s = .ok (e, rest) → ∃ ls, s = ls ++ rest ∧ Derives c n (ls.map (·.token)) e

variable {finish n : Nat}

theorem tooDeep_sound (c : Category) : (tooDeep finish).Sound c n := by
  intro s rest e h
  cases h

/-- The loop of a level: what was read so far goes on being a phrase of the level. -/
theorem joined_sound {l : Level} {part : Reading} (hp : part.Sound l.part n) {fuel : Nat}
    {left e : Expr} {before s rest : List Lexeme}
    (hl : Derives (.joined l) n (before.map (·.token)) left)
    (h : joined l.operator? part fuel left s = .ok (e, rest)) :
    ∃ ls, s = ls ++ rest ∧ Derives (.joined l) n ((before ++ ls).map (·.token)) e := by
  induction fuel generalizing left before s with
  | zero =>
    cases h
    exact ⟨[], rfl, by simpa using hl⟩
  | succ fuel ih =>
    cases s with
    | nil =>
      cases h
      exact ⟨[], rfl, by simpa using hl⟩
    | cons l₀ s =>
      cases hop : l.operator? l₀.token with
      | none =>
        simp only [joined, hop] at h
        cases h
        exact ⟨[], rfl, by simpa using hl⟩
      | some op =>
        simp only [joined, hop, except_bind_eq_ok] at h
        obtain ⟨⟨right, s'⟩, hright, h⟩ := h
        obtain ⟨rs, rfl, hr⟩ := hp _ _ _ hright
        have hb : Derives (.joined l) n ((before ++ l₀ :: rs).map (·.token))
            (.binary op left right) := by
          simpa using Derives.binary hl (Level.operator?_eq_some_iff.mp hop) hr
        obtain ⟨ls, rfl, he⟩ := ih hb h
        exact ⟨l₀ :: (rs ++ ls), by simp, by simpa using he⟩

theorem level_sound {l : Level} {part : Reading} (hp : part.Sound l.part n) :
    (level l.operator? part).Sound (.joined l) n := by
  intro s rest e h
  simp only [level, except_bind_eq_ok] at h
  obtain ⟨⟨left, s'⟩, hleft, h⟩ := h
  obtain ⟨before, rfl, hl⟩ := hp _ _ _ hleft
  obtain ⟨ls, rfl, he⟩ := joined_sound hp (.single hl) h
  exact ⟨before ++ ls, by simp, he⟩

theorem binaryLevels_sound {unary : Reading} (hu : unary.Sound .unary n) :
    (binaryLevels unary).Sound (.joined .disjunction) n := by
  have h₁ := level_sound (l := .multiplicative) hu
  have h₂ := level_sound (l := .additive) h₁
  have h₃ := level_sound (l := .ordering) h₂
  have h₄ := level_sound (l := .equality) h₃
  have h₅ := level_sound (l := .conjunction) h₄
  exact level_sound (l := .disjunction) h₅

theorem conditionalOver_sound {branch unary : Reading} (hb : branch.Sound .expression n)
    (hu : unary.Sound .unary n) :
    (conditionalOver finish branch unary).Sound .expression (n + 1) := by
  intro s rest e h
  simp only [conditionalOver, except_bind_eq_ok] at h
  obtain ⟨⟨c, s₁⟩, rc, h⟩ := h
  obtain ⟨cs, rfl, dc⟩ := binaryLevels_sound hu _ _ _ rc
  cases hq : eat? .question s₁ with
  | none =>
    rw [hq] at h
    cases h
    exact ⟨cs, rfl, .plain dc⟩
  | some s₂ =>
    simp only [hq, except_bind_eq_ok] at h
    obtain ⟨⟨t, s₃⟩, rt, s₄, rcolon, ⟨e', s₅⟩, re, h⟩ := h
    cases h
    obtain ⟨question, rfl, hquestion⟩ := eat?_eq_some_iff.mp hq
    obtain ⟨ts, rfl, dt⟩ := hb _ _ _ rt
    obtain ⟨colon, rfl, hcolon⟩ := expect_eq_ok_iff.mp rcolon
    obtain ⟨es, rfl, de⟩ := hb _ _ _ re
    refine ⟨cs ++ question :: (ts ++ colon :: es), by simp, ?_⟩
    simpa [hquestion, hcolon] using Derives.conditional dc dt de

/-- Expressions with commas between them. -/
def Arguments (n : Nat) (ts : List Token) (es : List Expr) : Prop :=
  ∃ args : List (List Token × Expr), (∀ a ∈ args, Derives .expression n a.1 a.2) ∧
    ts = [.symbol .comma].intercalate (args.map (·.1)) ∧ es = args.map (·.2)

theorem Arguments.cons {ts us : List Token} {e : Expr} {es : List Expr}
    (h : Derives .expression n ts e) (hs : Arguments n us es) (hne : es ≠ []) :
    Arguments n (ts ++ .symbol .comma :: us) (e :: es) := by
  obtain ⟨args, hargs, rfl, rfl⟩ := hs
  refine ⟨(ts, e) :: args, List.forall_mem_cons.mpr ⟨h, hargs⟩, ?_, rfl⟩
  cases args with
  | nil => exact absurd rfl hne
  | cons a args => simp [List.intercalate]

theorem moreArguments_sound {expression : Reading} (he : expression.Sound .expression n)
    {fuel : Nat} {s rest : List Lexeme} {es : List Expr}
    (h : moreArguments finish expression fuel s = .ok (es, rest)) :
    ∃ ls close, s = ls ++ close :: rest ∧ close.token = .symbol .closeParen ∧ es ≠ [] ∧
      Arguments n (ls.map (·.token)) es := by
  induction fuel generalizing s es with
  | zero => cases h
  | succ fuel ih =>
    simp only [moreArguments, except_bind_eq_ok] at h
    obtain ⟨⟨e, s₁⟩, re, h⟩ := h
    obtain ⟨fs, rfl, de⟩ := he _ _ _ re
    cases hcomma : eat? .comma s₁ with
    | none =>
      simp only [hcomma, except_bind_eq_ok] at h
      obtain ⟨s₂, rclose, h⟩ := h
      cases h
      obtain ⟨close, rfl, hclose⟩ := expect_eq_ok_iff.mp rclose
      exact ⟨fs, close, rfl, hclose, by simp, [(fs.map (·.token), e)],
        List.forall_mem_singleton.mpr de,
        by simp [List.intercalate], rfl⟩
    | some s₂ =>
      simp only [hcomma, except_bind_eq_ok] at h
      obtain ⟨⟨es', s₃⟩, rmore, h⟩ := h
      cases h
      obtain ⟨comma, rfl, hc⟩ := eat?_eq_some_iff.mp hcomma
      obtain ⟨ls, close, rfl, hclose, hne, hargs⟩ := ih rmore
      refine ⟨fs ++ comma :: ls, close, by simp, hclose, by simp, ?_⟩
      simpa [hc] using Arguments.cons de hargs hne

theorem arguments_sound {expression : Reading} (he : expression.Sound .expression n)
    {s rest : List Lexeme} {es : List Expr}
    (h : arguments finish expression s = .ok (es, rest)) :
    ∃ ls close, s = ls ++ close :: rest ∧ close.token = .symbol .closeParen ∧
      Arguments n (ls.map (·.token)) es := by
  unfold arguments at h
  cases hempty : eat? .closeParen s with
  | none =>
    rw [hempty] at h
    obtain ⟨ls, close, hs, hclose, _, hargs⟩ := moreArguments_sound he h
    exact ⟨ls, close, hs, hclose, hargs⟩
  | some s₁ =>
    rw [hempty] at h
    cases h
    obtain ⟨close, rfl, hclose⟩ := eat?_eq_some_iff.mp hempty
    exact ⟨[], close, rfl, hclose, [], by simp, rfl, rfl⟩

theorem callOf_sound {expression : Reading} (he : expression.Sound .expression n)
    {name : String} {s rest : List Lexeme} {e : Expr}
    (h : callOf finish expression name s = .ok (e, rest)) :
    ∃ ls close, s = ls ++ close :: rest ∧ close.token = .symbol .closeParen ∧
      Derives .primary n
        (.name name :: .symbol .openParen :: (ls.map (·.token) ++ [.symbol .closeParen])) e := by
  unfold callOf at h
  cases hf : Function.lookup? name with
  | none =>
    rw [hf] at h
    cases h
  | some f =>
    simp only [hf, except_bind_eq_ok] at h
    obtain ⟨⟨es, s₁⟩, rargs, h⟩ := h
    obtain ⟨ls, close, rfl, hclose, args, hargs, hls, rfl⟩ := arguments_sound he rargs
    cases ha : f.arity.allows (args.map (·.2)).length with
    | false =>
      simp only [ha] at h
      cases h
    | true =>
      simp only [ha] at h
      cases h
      refine ⟨ls, close, rfl, hclose, ?_⟩
      rw [hls]
      exact .call (Function.lookup?_eq_some_iff.mp hf) (by simpa using ha) hargs

/-- Phrases behind no prefix operator, so that a leading `not` cannot be their name. -/
theorem primary_sound {expression : Reading} (he : expression.Sound .expression n)
    {l : Lexeme} {s rest : List Lexeme} {e : Expr} (hp : prefixOp? l.token = none)
    (h : primary finish expression (l :: s) = .ok (e, rest)) :
    ∃ ls, l :: s = ls ++ rest ∧ Derives .primary n (ls.map (·.token)) e := by
  obtain ⟨tok, start, width⟩ := l
  unfold primary at h
  dsimp only at h hp
  split at h
  · cases h
    exact ⟨[⟨_, start, width⟩], rfl, .number ..⟩
  · cases h
    exact ⟨[⟨_, start, width⟩], rfl, .text ..⟩
  · simp only [except_bind_eq_ok] at h
    obtain ⟨⟨e', s₁⟩, re, s₂, rclose, h⟩ := h
    cases h
    obtain ⟨ls, rfl, de⟩ := he _ _ _ re
    obtain ⟨close, rfl, hclose⟩ := expect_eq_ok_iff.mp rclose
    refine ⟨⟨.symbol .openParen, start, width⟩ :: (ls ++ [close]), by simp, ?_⟩
    simpa [hclose] using Derives.group de
  · cases h
  · cases h
    exact ⟨[⟨_, start, width⟩], rfl, .literalTrue _⟩
  · cases h
    exact ⟨[⟨_, start, width⟩], rfl, .literalFalse _⟩
  · rename_i name htrue hfalse
    have hnot : name ≠ "not" := by
      rintro rfl
      cases hp
    split at h
    · rename_i s₁ hopen
      obtain ⟨lparen, rfl, hlparen⟩ := eat?_eq_some_iff.mp hopen
      obtain ⟨ls, close, rfl, hclose, dc⟩ := callOf_sound he h
      refine ⟨⟨.name name, start, width⟩ :: lparen :: (ls ++ [close]), by simp, ?_⟩
      simpa [hlparen, hclose] using dc
    · cases h
      refine ⟨[⟨_, start, width⟩], rfl, .named _ ?_⟩
      simpa [reserved] using ⟨htrue, hfalse, hnot⟩

theorem powerOver_sound {operand expression : Reading} (ho : operand.Sound .operand n)
    (he : expression.Sound .expression n) {s rest : List Lexeme} {e : Expr}
    (hp : s.head?.bind (prefixOp? ·.token) = none)
    (h : powerOver finish operand expression s = .ok (e, rest)) :
    ∃ ls, s = ls ++ rest ∧ Derives .power n (ls.map (·.token)) e := by
  simp only [powerOver, except_bind_eq_ok] at h
  obtain ⟨⟨base, s₁⟩, rbase, h⟩ := h
  cases s with
  | nil => cases rbase
  | cons l s =>
    obtain ⟨bs, hs, dbase⟩ := primary_sound he hp rbase
    cases hstar : eat? .starStar s₁ with
    | none =>
      rw [hstar] at h
      cases h
      exact ⟨bs, hs, .base dbase⟩
    | some s₂ =>
      simp only [hstar, except_bind_eq_ok] at h
      obtain ⟨⟨exponent, s₃⟩, rexp, h⟩ := h
      cases h
      obtain ⟨star, rfl, hst⟩ := eat?_eq_some_iff.mp hstar
      obtain ⟨es, rfl, dexp⟩ := ho _ _ _ rexp
      refine ⟨bs ++ star :: es, by simp [hs], ?_⟩
      simpa [hst] using Derives.raised dbase dexp

theorem unaryOver_sound {operand expression : Reading} (ho : operand.Sound .operand n)
    (he : expression.Sound .expression n) :
    (unaryOver finish operand expression).Sound .unary n := by
  intro s rest e h
  unfold unaryOver at h
  cases hp : s.head?.bind (prefixOp? ·.token) with
  | none =>
    rw [hp] at h
    obtain ⟨ls, hs, dpower⟩ := powerOver_sound ho he hp h
    exact ⟨ls, hs, .bare dpower⟩
  | some op =>
    simp only [hp, except_bind_eq_ok] at h
    obtain ⟨⟨e', s₁⟩, re, h⟩ := h
    cases h
    obtain ⟨l, hl, hop⟩ := Option.bind_eq_some_iff.mp hp
    obtain ⟨s₀, rfl⟩ := List.head?_eq_some_iff.mp hl
    obtain ⟨ls, hs, de⟩ := ho _ _ _ re
    exact ⟨l :: ls, by simpa using hs, .prefixed (prefixOp?_eq_some_iff.mp hop) de⟩

/-- By the room there is: an expression and an operand each read with one less than they have. -/
theorem expressionIn_sound (finish n : Nat) :
    (expressionIn finish n).Sound .expression n ∧ (unaryIn finish n).Sound .unary n := by
  induction n with
  | zero =>
    rw [expressionIn, unaryIn]
    exact ⟨tooDeep_sound _, unaryOver_sound (tooDeep_sound _) (tooDeep_sound _)⟩
  | succ n ih =>
    obtain ⟨hexpr, hunary⟩ := ih
    have hoperand : (unaryIn finish n).Sound .operand (n + 1) := by
      intro s rest e h
      obtain ⟨ls, hs, d⟩ := hunary _ _ _ h
      exact ⟨ls, hs, .opened d⟩
    have hnext : (conditionalOver finish (expressionIn finish n) (unaryIn finish n)).Sound
        .expression (n + 1) := conditionalOver_sound hexpr hunary
    rw [expressionIn, unaryIn]
    exact ⟨hnext, unaryOver_sound hoperand hnext⟩

end AppDef.Expr
