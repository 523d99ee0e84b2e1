import AppDef.Proofs.Expr.Soundness

namespace AppDef.Expr

/-- How tightly a token binds what stands before it; one that never goes on with a phrase does
not bind at all. -/
def Token.grip : Token → Nat
  | .symbol .question => 1
  | .symbol .orOr | .name "or" => 2
  | .symbol .andAnd | .name "and" => 3
  | .symbol .equal | .symbol .notEqual => 4
  | .symbol .less | .symbol .lessEqual | .symbol .greater | .symbol .greaterEqual => 5
  | .symbol .plus | .symbol .minus => 6
  | .symbol .star | .symbol .slash | .symbol .percent => 7
  | .symbol .starStar => 8
  | .symbol .openParen => 9
  | _ => 0

/-- The loosest grip with which a phrase of the category goes on. -/
def Category.grip : Category → Nat
  | .expression => 1
  | .joined l => l.grip
  | .operand | .unary | .power => 8
  | .primary => 9

/-- A phrase of the category ends before `rest`. -/
def Stops (c : Category) (rest : List Lexeme) : Prop :=
  ∀ l ∈ rest.head?, l.token.grip < c.grip

variable {finish n : Nat} {c : Category} {l : Level} {rest : List Lexeme}

theorem Stops.mono {c' : Category} (h : Stops c rest) (hc : c.grip ≤ c'.grip) : Stops c' rest :=
  fun l hl => Nat.lt_of_lt_of_le (h l hl) hc

theorem Stops.of_head {l : Lexeme} (h : l.token.grip < c.grip) : Stops c (l :: rest) := by
  intro l' hl
  cases hl
  exact h

theorem Level.grip_lt_part (l : Level) : l.grip < l.part.grip := by
  cases l <;> decide

theorem Level.Joins.grip {tok : Token} {op : BinaryOp} (h : l.Joins tok op) :
    tok.grip = l.grip := by
  cases h <;> rfl

theorem Stops.operator? {lexeme : Lexeme} (h : Stops (.joined l) (lexeme :: rest)) :
    l.operator? lexeme.token = none := by
  have hlt : lexeme.token.grip < l.grip := h lexeme rfl
  cases ho : l.operator? lexeme.token with
  | none => rfl
  | some op =>
    have := (Level.operator?_eq_some_iff.mp ho).grip
    omega

theorem Stops.eat? {symbol : Symbol} (h : Stops c rest)
    (hc : c.grip ≤ (Token.symbol symbol).grip) : eat? symbol rest = none := by
  cases he : Expr.eat? symbol rest with
  | none => rfl
  | some s =>
    obtain ⟨l, rfl, hl⟩ := eat?_eq_some_iff.mp he
    have hlt := h l rfl
    rw [hl] at hlt
    omega

/-- No phrase begins with a closing parenthesis, and no operator stands before a power. -/
theorem Derives.head {ts : List Token} {e : Expr} (h : Derives c n ts e) :
    ∃ t us, ts = t :: us ∧ t ≠ .symbol .closeParen ∧
      (c = .primary ∨ c = .power → prefixOp? t = none) := by
  induction h with
  | plain _ ih | single _ ih | opened _ ih | bare _ ih =>
    obtain ⟨t, us, rfl, ht, _⟩ := ih
    refine ⟨t, us, rfl, ht, ?_⟩
    rintro (h | h) <;> cases h
  | conditional _ _ _ ih | binary _ _ _ ih =>
    obtain ⟨t, us, rfl, ht, _⟩ := ih
    refine ⟨t, _, rfl, ht, ?_⟩
    rintro (h | h) <;> cases h
  | prefixed hop _ _ =>
    refine ⟨_, _, rfl, ?_, ?_⟩
    · cases hop <;> simp
    · rintro (h | h) <;> cases h
  | base _ ih =>
    obtain ⟨t, us, rfl, ht, hp⟩ := ih
    exact ⟨t, us, rfl, ht, fun _ => hp (.inl rfl)⟩
  | raised _ _ ih _ =>
    obtain ⟨t, us, rfl, ht, hp⟩ := ih
    exact ⟨t, _, rfl, ht, fun _ => hp (.inl rfl)⟩
  | named _ hn =>
    refine ⟨_, _, rfl, by simp, fun _ => ?_⟩
    unfold prefixOp?
    split <;> simp_all [reserved]
  | @call _ name f _ hf _ _ _ =>
    refine ⟨_, _, rfl, by simp, fun _ => ?_⟩
    have hn : name ≠ "not" := by
      rintro rfl
      rcases hf with hf | hf <;> cases f <;> simp [Function.name] at hf
    unfold prefixOp?
    split <;> simp_all
  | number | text | literalTrue | literalFalse | group =>
    exact ⟨_, _, rfl, by simp, fun _ => rfl⟩

/-- The reading of what a level joins, over the reading of unary phrases. -/
def Level.partOver (unary : Reading) : Level → Reading
  | .multiplicative => unary
  | .additive => level multiplicative? unary
  | .ordering => level additive? <| level multiplicative? unary
  | .equality => level ordering? <| level additive? <| level multiplicative? unary
  | .conjunction =>
    level equality? <| level ordering? <| level additive? <| level multiplicative? unary
  | .disjunction =>
    level conjunction? <| level equality? <| level ordering? <| level additive? <|
      level multiplicative? unary

def operandIn (finish : Nat) : Nat → Reading
  | 0 => tooDeep finish
  | n + 1 => unaryIn finish n

theorem unaryIn_eq (finish n : Nat) :
    unaryIn finish n = unaryOver finish (operandIn finish n) (expressionIn finish n) := by
  cases n with
  | zero => rw [unaryIn, operandIn, expressionIn]
  | succ n => rw [unaryIn, operandIn, expressionIn]

def Category.reading (finish n : Nat) : Category → Reading
  | .expression => expressionIn finish n
  | .joined l => level l.operator? (l.partOver (unaryIn finish n))
  | .operand => operandIn finish n
  | .unary => unaryIn finish n
  | .power => powerOver finish (operandIn finish n) (expressionIn finish n)
  | .primary => Expr.primary finish (expressionIn finish n)

theorem Level.reading_part (l : Level) :
    l.part.reading finish n = l.partOver (unaryIn finish n) := by
  cases l <;> rfl

/-- The reading takes the lexemes as the tree before any `rest` that does not go on with them.
On a level the loop may go on with operators of that level, from the tree read so far. -/
def Accepts (finish n : Nat) (ls : List Lexeme) (e : Expr) : Category → Prop
  | .joined l => ∀ rest, Stops l.part rest → ∃ fuel, rest.length ≤ fuel ∧
      (Category.joined l).reading finish n (ls ++ rest) =
        joined l.operator? (l.partOver (unaryIn finish n)) fuel e rest
  | c => ∀ rest, Stops c rest → c.reading finish n (ls ++ rest) = .ok (e, rest)

theorem joined_of_stops {part : Reading} {fuel : Nat} {e : Expr} (h : Stops (.joined l) rest) :
    joined l.operator? part fuel e rest = .ok (e, rest) := by
  cases fuel with
  | zero => rfl
  | succ fuel =>
    cases rest with
    | nil => rfl
    | cons l₀ rest => simp only [joined, h.operator?]

theorem Accepts.reads {ls : List Lexeme} {e : Expr} (h : Accepts finish n ls e c)
    (hs : Stops c rest) : c.reading finish n (ls ++ rest) = .ok (e, rest) := by
  cases c with
  | joined l =>
    obtain ⟨fuel, _, hr⟩ := h rest (hs.mono (Nat.le_of_lt l.grip_lt_part))
    rw [hr, joined_of_stops hs]
  | expression | operand | unary | power | primary => exact h rest hs

theorem Accepts.single {ls : List Lexeme} {e : Expr} (h : Accepts finish n ls e l.part) :
    Accepts finish n ls e (.joined l) := by
  intro rest hs
  refine ⟨rest.length, Nat.le_refl _, ?_⟩
  have hr := h.reads hs
  rw [Level.reading_part] at hr
  simp only [Category.reading, level, hr, except_ok_bind]

theorem Accepts.binary {ls rs : List Lexeme} {lexeme : Lexeme} {left right : Expr} {op : BinaryOp}
    (hl : Accepts finish n ls left (.joined l)) (hop : l.Joins lexeme.token op)
    (hr : Accepts finish n rs right l.part) :
    Accepts finish n (ls ++ lexeme :: rs) (.binary op left right) (.joined l) := by
  intro rest hs
  obtain ⟨fuel, hfuel, hleft⟩ := hl (lexeme :: (rs ++ rest))
    (.of_head (hop.grip ▸ l.grip_lt_part))
  obtain ⟨fuel, rfl⟩ : ∃ k, fuel = k + 1 := Nat.exists_eq_add_one_of_ne_zero (by
    simp only [List.length_cons] at hfuel
    omega)
  have hright := hr.reads hs
  rw [Level.reading_part] at hright
  refine ⟨fuel, ?_, ?_⟩
  · simp only [List.length_cons, List.length_append] at hfuel
    omega
  · rw [List.append_assoc, List.cons_append, hleft]
    simp only [joined, Level.operator?_eq_some_iff.mpr hop, hright, except_ok_bind]

theorem binaryLevels_reads {ls : List Lexeme} {e : Expr}
    (h : Accepts finish n ls e (.joined .disjunction)) (hs : Stops (.joined .disjunction) rest) :
    binaryLevels (unaryIn finish n) (ls ++ rest) = .ok (e, rest) :=
  h.reads hs

theorem expect_of_token {symbol : Symbol} {fault : SyntaxFault} {lexeme : Lexeme}
    (h : lexeme.token = .symbol symbol) :
    expect finish symbol fault (lexeme :: rest) = .ok rest :=
  expect_eq_ok_iff.mpr ⟨lexeme, rfl, h⟩

theorem eat?_of_token {symbol : Symbol} {lexeme : Lexeme} (h : lexeme.token = .symbol symbol) :
    eat? symbol (lexeme :: rest) = some rest :=
  eat?_eq_some_iff.mpr ⟨lexeme, rfl, h⟩

theorem Accepts.plain {ls : List Lexeme} {e : Expr}
    (h : Accepts finish n ls e (.joined .disjunction)) :
    Accepts finish (n + 1) ls e .expression := by
  intro rest hs
  have hr := binaryLevels_reads h (hs.mono (by decide))
  have hq : Expr.eat? .question rest = none := hs.eat? (by decide)
  simp only [Category.reading, expressionIn, conditionalOver, hr, except_ok_bind, hq, except_pure]

theorem Accepts.conditional {cs ts es : List Lexeme} {question colon : Lexeme} {c t e : Expr}
    (hc : Accepts finish n cs c (.joined .disjunction)) (hq : question.token = .symbol .question)
    (ht : Accepts finish n ts t .expression) (hcolon : colon.token = .symbol .colon)
    (he : Accepts finish n es e .expression) :
    Accepts finish (n + 1) (cs ++ question :: (ts ++ colon :: es)) (.conditional c t e)
      .expression := by
  intro rest hs
  have hstops : Stops (.joined .disjunction) (question :: (ts ++ colon :: (es ++ rest))) :=
    .of_head (by rw [hq]; decide)
  have rc := binaryLevels_reads hc hstops
  have rt := ht (colon :: (es ++ rest)) (.of_head (by rw [hcolon]; decide))
  have re := he rest hs
  simp only [Category.reading] at rt re
  simp only [Category.reading, expressionIn, conditionalOver, List.append_assoc, List.cons_append,
    rc, rt, re, except_ok_bind, eat?_of_token hq, expect_of_token hcolon, except_pure]

theorem Accepts.opened {ls : List Lexeme} {e : Expr} (h : Accepts finish n ls e .unary) :
    Accepts finish (n + 1) ls e .operand :=
  h

theorem Accepts.prefixed {ls : List Lexeme} {lexeme : Lexeme} {op : PrefixOp} {e : Expr}
    (hop : Prefixes lexeme.token op) (h : Accepts finish n ls e .operand) :
    Accepts finish n (lexeme :: ls) (.unary op e) .unary := by
  intro rest hs
  have hr := h rest hs
  simp only [Category.reading] at hr
  simp only [Category.reading, unaryIn_eq, unaryOver, List.cons_append, List.head?_cons,
    Option.bind_some, prefixOp?_eq_some_iff.mpr hop, List.tail_cons, hr, except_ok_bind,
    except_pure]

theorem Accepts.bare {ls : List Lexeme} {e : Expr} (h : Accepts finish n ls e .power)
    (hhead : (ls.head?.bind fun l => prefixOp? l.token) = none) (hne : ls ≠ []) :
    Accepts finish n ls e .unary := by
  intro rest hs
  have hr := h rest hs
  simp only [Category.reading] at hr
  obtain ⟨l₀, ls, rfl⟩ := List.exists_cons_of_ne_nil hne
  simp only [List.head?_cons, Option.bind_some] at hhead
  simp only [List.cons_append] at hr
  simp only [Category.reading, unaryIn_eq, unaryOver, List.cons_append, List.head?_cons,
    Option.bind_some, hhead, hr]

theorem Accepts.base {ls : List Lexeme} {e : Expr} (h : Accepts finish n ls e .primary) :
    Accepts finish n ls e .power := by
  intro rest hs
  have hr := h rest (hs.mono (by decide))
  have hstar : Expr.eat? .starStar rest = none := hs.eat? (by decide)
  simp only [Category.reading] at hr
  simp only [Category.reading, powerOver, hr, except_ok_bind, hstar, except_pure]

theorem Accepts.raised {bs es : List Lexeme} {star : Lexeme} {base exponent : Expr}
    (hb : Accepts finish n bs base .primary) (hstar : star.token = .symbol .starStar)
    (he : Accepts finish n es exponent .operand) :
    Accepts finish n (bs ++ star :: es) (.binary (.arithmetic .power) base exponent) .power := by
  intro rest hs
  have rb := hb (star :: (es ++ rest)) (.of_head (by rw [hstar]; decide))
  have re := he rest hs
  simp only [Category.reading] at rb re
  simp only [Category.reading, powerOver, List.append_assoc, List.cons_append, rb, re,
    except_ok_bind, eat?_of_token hstar, except_pure]

theorem Accepts.named {lexeme : Lexeme} {name : String} (hl : lexeme.token = .name name)
    (hn : name ∉ reserved) : Accepts finish n [lexeme] (.variable name) .primary := by
  intro rest hs
  have hopen : Expr.eat? .openParen rest = none := hs.eat? (by decide)
  simp only [reserved, List.mem_cons, List.not_mem_nil, or_false, not_or] at hn
  simp only [Category.reading, Expr.primary, List.singleton_append, hl]
  split <;> simp_all

theorem Accepts.group {ls : List Lexeme} {opening closing : Lexeme} {e : Expr}
    (ho : opening.token = .symbol .openParen) (h : Accepts finish n ls e .expression)
    (hc : closing.token = .symbol .closeParen) :
    Accepts finish n (opening :: (ls ++ [closing])) e .primary := by
  intro rest _
  have hr := h (closing :: rest) (.of_head (by rw [hc]; decide))
  simp only [Category.reading] at hr
  simp only [Category.reading, Expr.primary, List.cons_append, List.append_assoc,
    List.nil_append, ho, hr, except_ok_bind, expect_of_token hc, except_pure]

/-- The lexemes of arguments, commas between them. -/
inductive Listed (finish n : Nat) : List Lexeme → List Expr → Prop
  | one {ls e} : Accepts finish n ls e .expression → Listed finish n ls [e]
  | more {ls comma us e es} : Accepts finish n ls e .expression →
      comma.token = .symbol .comma → Listed finish n us es →
      Listed finish n (ls ++ comma :: us) (e :: es)

theorem Listed.reads {ls : List Lexeme} {es : List Expr} (h : Listed finish n ls es)
    {closing : Lexeme} (hc : closing.token = .symbol .closeParen) (rest : List Lexeme)
    {fuel : Nat} (hfuel : ls.length < fuel) :
    moreArguments finish (expressionIn finish n) fuel (ls ++ closing :: rest) = .ok (es, rest) := by
  induction h generalizing fuel with
  | @one ls e he =>
    obtain ⟨fuel, rfl⟩ := Nat.exists_eq_add_one_of_ne_zero (by omega : fuel ≠ 0)
    have hr := he (closing :: rest) (.of_head (by rw [hc]; decide))
    have hcomma : Expr.eat? .comma (closing :: rest) = none := by
      cases he : Expr.eat? .comma (closing :: rest) with
      | none => rfl
      | some s =>
        obtain ⟨l, hl, hcomma⟩ := eat?_eq_some_iff.mp he
        cases hl
        rw [hc] at hcomma
        cases hcomma
    simp only [Category.reading] at hr
    simp only [moreArguments, hr, except_ok_bind, hcomma, expect_of_token hc, except_pure]
  | @more ls comma us e es he hcomma _ ih =>
    obtain ⟨fuel, rfl⟩ := Nat.exists_eq_add_one_of_ne_zero (by omega : fuel ≠ 0)
    have hr := he (comma :: (us ++ closing :: rest)) (.of_head (by rw [hcomma]; decide))
    have hless : us.length < fuel := by
      simp only [List.length_append, List.length_cons] at hfuel
      omega
    have hmore := ih hless
    simp only [Category.reading] at hr
    simp only [moreArguments, List.append_assoc, List.cons_append, hr, except_ok_bind,
      eat?_of_token hcomma, hmore, except_pure]

theorem Accepts.call {ls : List Lexeme} {word opening closing : Lexeme} {name : String}
    {f : Function} {es : List Expr} (hw : word.token = .name name)
    (ho : opening.token = .symbol .openParen) (hf : f.CalledBy name)
    (ha : f.arity.allows es.length = true)
    (hargs : ∀ rest, arguments finish (expressionIn finish n) (ls ++ closing :: rest) =
      .ok (es, rest)) :
    Accepts finish n (word :: opening :: (ls ++ [closing])) (.call f es) .primary := by
  intro rest _
  have htrue : name ≠ "true" := by
    rintro rfl
    rcases hf with hf | hf <;> cases f <;> simp [Function.name] at hf
  have hfalse : name ≠ "false" := by
    rintro rfl
    rcases hf with hf | hf <;> cases f <;> simp [Function.name] at hf
  have hcall : callOf finish (expressionIn finish n) name (ls ++ closing :: rest) =
      .ok (.call f es, rest) := by
    simp only [callOf, Function.lookup?_eq_some_iff.mpr hf, hargs, except_ok_bind, ha,
      ↓reduceIte, except_pure]
  have hopen : Expr.eat? .openParen (opening :: (ls ++ closing :: rest)) =
      some (ls ++ closing :: rest) := eat?_of_token ho
  simp only [Category.reading, Expr.primary, List.cons_append, List.append_assoc,
    List.nil_append, hw]
  split <;> simp_all

theorem Listed.of_arguments {args : List (List Token × Expr)} (hne : args ≠ [])
    (hargs : ∀ a ∈ args, ∀ ls : List Lexeme, ls.map (·.token) = a.1 →
      Accepts finish n ls a.2 .expression)
    {ls : List Lexeme} (hls : ls.map (·.token) = [.symbol .comma].intercalate (args.map (·.1))) :
    Listed finish n ls (args.map (·.2)) := by
  induction args generalizing ls with
  | nil => exact absurd rfl hne
  | cons a args ih =>
    cases args with
    | nil => exact .one (hargs a List.mem_cons_self ls (by simpa [List.intercalate] using hls))
    | cons b args =>
      have hls' : ls.map (·.token) = a.1 ++ .symbol .comma ::
          [.symbol .comma].intercalate ((b :: args).map (·.1)) := by
        simpa [List.intercalate] using hls
      obtain ⟨as, bs, rfl, ha, hb⟩ := List.map_eq_append_iff.mp hls'
      obtain ⟨comma, us, rfl, hcomma, hus⟩ := List.map_eq_cons_iff.mp hb
      exact .more (hargs a List.mem_cons_self as ha) hcomma
        (ih (by simp) (fun b hb => hargs b (List.mem_cons_of_mem _ hb)) hus)

theorem arguments_reads {args : List (List Token × Expr)}
    (hd : ∀ a ∈ args, Derives .expression n a.1 a.2)
    (hargs : ∀ a ∈ args, ∀ ls : List Lexeme, ls.map (·.token) = a.1 →
      Accepts finish n ls a.2 .expression)
    {ls : List Lexeme} (hls : ls.map (·.token) = [.symbol .comma].intercalate (args.map (·.1)))
    {closing : Lexeme} (hc : closing.token = .symbol .closeParen) (rest : List Lexeme) :
    arguments finish (expressionIn finish n) (ls ++ closing :: rest) =
      .ok (args.map (·.2), rest) := by
  cases args with
  | nil =>
    obtain rfl := List.map_eq_nil_iff.mp hls
    simp only [arguments, List.nil_append, eat?_of_token hc, List.map_nil]
  | cons a args =>
    have hlisted := Listed.of_arguments (by simp) hargs hls
    have hempty : Expr.eat? .closeParen (ls ++ closing :: rest) = none := by
      obtain ⟨t, us, ht, hne, _⟩ := (hd a List.mem_cons_self).head
      have hhead : ∃ vs, ls.map (·.token) = t :: vs := by
        cases args <;> simp [hls, List.intercalate, ht]
      obtain ⟨vs, hvs⟩ := hhead
      obtain ⟨l, ls, rfl, hl, _⟩ := List.map_eq_cons_iff.mp hvs
      cases he : Expr.eat? .closeParen (l :: ls ++ closing :: rest) with
      | none => rfl
      | some s =>
        obtain ⟨l', hl', hclose⟩ := eat?_eq_some_iff.mp he
        cases hl'
        exact absurd (hl.symm.trans hclose) hne
    simp only [arguments, hempty]
    refine hlisted.reads hc rest ?_
    simp only [List.length_append]
    omega

theorem Derives.accepts {ts : List Token} {e : Expr} (h : Derives c n ts e) (finish : Nat) :
    ∀ ls : List Lexeme, ls.map (·.token) = ts → Accepts finish n ls e c := by
  induction h with
  | plain _ ih => exact fun ls hls => (ih ls hls).plain
  | single _ ih => exact fun ls hls => (ih ls hls).single
  | opened _ ih => exact fun ls hls => (ih ls hls).opened
  | base _ ih => exact fun ls hls => (ih ls hls).base
  | conditional _ _ _ ihc iht ihe =>
    intro ls hls
    obtain ⟨cs, s, rfl, hcs, hs⟩ := List.map_eq_append_iff.mp hls
    obtain ⟨question, s, rfl, hq, hs⟩ := List.map_eq_cons_iff.mp hs
    obtain ⟨ts, s, rfl, hts, hs⟩ := List.map_eq_append_iff.mp hs
    obtain ⟨colon, es, rfl, hcolon, hes⟩ := List.map_eq_cons_iff.mp hs
    exact (ihc cs hcs).conditional hq (iht ts hts) hcolon (ihe es hes)
  | binary _ hop _ ihl ihr =>
    intro ls hls
    obtain ⟨ls, us, rfl, hleft, hus⟩ := List.map_eq_append_iff.mp hls
    obtain ⟨l₀, rs, rfl, hl₀, hright⟩ := List.map_eq_cons_iff.mp hus
    exact (ihl ls hleft).binary (hl₀ ▸ hop) (ihr rs hright)
  | prefixed hop _ ih =>
    intro ls hls
    obtain ⟨l₀, ls, rfl, hl₀, hls⟩ := List.map_eq_cons_iff.mp hls
    exact .prefixed (hl₀ ▸ hop) (ih ls hls)
  | bare hd ih =>
    intro ls hls
    obtain ⟨t, us, rfl, _, hp⟩ := hd.head
    obtain ⟨l₀, ls, rfl, rfl, hls'⟩ := List.map_eq_cons_iff.mp hls
    exact (ih _ hls).bare (hp (.inr rfl)) (by simp)
  | raised _ _ ihb ihe =>
    intro ls hls
    obtain ⟨bs, us, rfl, hbs, hus⟩ := List.map_eq_append_iff.mp hls
    obtain ⟨star, es, rfl, hstar, hes⟩ := List.map_eq_cons_iff.mp hus
    exact (ihb bs hbs).raised hstar (ihe es hes)
  | number | text | literalTrue | literalFalse =>
    intro ls hls rest _
    obtain ⟨l₀, rfl, hl₀⟩ := List.map_eq_singleton_iff.mp hls
    simp only [Category.reading, Expr.primary, List.singleton_append, hl₀]
  | named _ hn =>
    intro ls hls
    obtain ⟨l₀, rfl, hl₀⟩ := List.map_eq_singleton_iff.mp hls
    exact .named hl₀ hn
  | group _ ih =>
    intro ls hls
    obtain ⟨opening, s, rfl, ho, hs⟩ := List.map_eq_cons_iff.mp hls
    obtain ⟨inner, us, rfl, hinner, hus⟩ := List.map_eq_append_iff.mp hs
    obtain ⟨closing, rfl, hc⟩ := List.map_eq_singleton_iff.mp hus
    exact .group ho (ih inner hinner) hc
  | call hf ha hd ih =>
    intro ls hls
    obtain ⟨word, s, rfl, hw, hs⟩ := List.map_eq_cons_iff.mp hls
    obtain ⟨opening, s, rfl, ho, hs⟩ := List.map_eq_cons_iff.mp hs
    obtain ⟨inner, us, rfl, hinner, hus⟩ := List.map_eq_append_iff.mp hs
    obtain ⟨closing, rfl, hc⟩ := List.map_eq_singleton_iff.mp hus
    exact .call hw ho hf (by simpa using ha) (arguments_reads hd ih hinner hc)

/-- A phrase that nothing follows is read whole, whatever room is left over. -/
theorem Derives.expressionIn {ls : List Lexeme} {e : Expr} {m : Nat}
    (h : Derives .expression n (ls.map (·.token)) e) (hm : n ≤ m) (finish : Nat) :
    expressionIn finish m ls = .ok (e, []) := by
  have hr := (h.mono m hm).accepts finish ls rfl
  have hend : Stops .expression [] := by
    intro l hl
    cases hl
  simpa [Category.reading] using hr.reads hend

/-- The tokens of an expression determine its tree. -/
theorem Derives.unique {ts : List Token} {e e' : Expr} {m : Nat}
    (h : Derives .expression n ts e) (h' : Derives .expression m ts e') : e = e' := by
  let ls : List Lexeme := ts.map fun t => ⟨t, 0, 0⟩
  have hls : ls.map (·.token) = ts := by simp [ls, Function.comp_def]
  rw [← hls] at h h'
  have hr := h.expressionIn (Nat.le_max_left n m) 0
  rw [h'.expressionIn (Nat.le_max_right n m) 0] at hr
  cases hr
  rfl

end AppDef.Expr
