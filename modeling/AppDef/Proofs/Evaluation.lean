import AppDef.Evaluation
import AppDef.Proofs.Dict
import AppDef.Proofs.Outcome

namespace AppDef

def Section.templates : Section → List String
  | .calculator s => s.resultFormat.toList
  | .result s => [s.template]
  | _ => []

/-- In every environment the templates of the section are rendered as some text. -/
def Section.Renders (s : Section) : Prop :=
  ∀ template ∈ s.templates, ∀ env, ∃ text, interpolate template env = .ok text

def Document.Renders (d : Document) : Prop :=
  ∀ s ∈ d.sections, s.Renders

variable {s s' : Section} {env scope : Environment} {state : SectionState}

theorem Section.Renders.evaluate (h : s.Renders) (env : Environment) :
    ∃ state, s.evaluate env = .ok state := by
  cases s with
  | text part | form part | wizard part => exact ⟨_, rfl⟩
  | calculator part =>
    refine except_map_isOk.mpr ?_
    unfold CalculatorSection.evaluate
    cases hv : evaluateFormula part.formula env with
    | error e => exact ⟨_, rfl⟩
    | ok value =>
      have hshow : ∃ shown, part.show? env value = .ok shown := by
        unfold CalculatorSection.show?
        cases hf : part.resultFormat with
        | none => exact ⟨_, rfl⟩
        | some format => exact h format (by simp [templates, hf]) _
      obtain ⟨shown, hshow⟩ := hshow
      exact ⟨.ok ⟨part.resultLabel, value, shown⟩, by simp [hshow]⟩
  | result part =>
    obtain ⟨text, ht⟩ := h part.template (by simp [templates]) env
    simp only [Section.evaluate, ResultSection.evaluate]
    cases guardHolds part.showIf env with
    | error e => exact ⟨_, rfl⟩
    | ok holds => cases holds <;> simp [ht]

/-- Once a calculator is evaluated at all, it comes to what its formula comes to. -/
theorem CalculatorSection.value_of_evaluate {part : CalculatorSection}
    {outcome : Except ExprError CalculatorOutput} (h : part.evaluate env = .ok outcome) :
    outcome.map (·.value) = evaluateFormula part.formula env := by
  unfold CalculatorSection.evaluate at h
  cases hv : evaluateFormula part.formula env with
  | error e =>
    rw [hv] at h
    cases h
    rfl
  | ok x =>
    rw [hv] at h
    obtain ⟨shown, _, hshown⟩ := except_bind_eq_ok.mp h
    cases hshown
    rfl

/-- What a result comes to, once it is evaluated at all, is decided by its guard. -/
theorem ResultSection.state_of_evaluate {part : ResultSection} (h : part.evaluate env = .ok state) :
    (∃ e, guardHolds part.showIf env = .error e ∧ state = .failed e) ∨
      (guardHolds part.showIf env = .ok false ∧ state = .hidden) ∨
      (guardHolds part.showIf env = .ok true ∧ ∃ text, state = .shown text) := by
  unfold ResultSection.evaluate at h
  cases hg : guardHolds part.showIf env with
  | error e =>
    rw [hg] at h
    cases h
    exact .inl ⟨e, rfl, rfl⟩
  | ok holds =>
    rw [hg] at h
    cases holds with
    | false =>
      cases h
      exact .inr (.inl ⟨rfl, rfl⟩)
    | true =>
      obtain ⟨text, _, rfl⟩ := except_map_eq_ok.mp h
      exact .inr (.inr ⟨rfl, text, rfl⟩)

/-- The value that a calculator came to. -/
def SectionState.value? : SectionState → Option Float
  | .calculator (.ok output) => some output.value
  | _ => none

/-- The value of the last calculator among the views that came to one. -/
def lastValue? (views : List SectionView) : Option Float :=
  views.reverse.findSome? (·.state.value?)

/-- The environment with the result bound to a value, if there is one. -/
def Environment.withResult (env : Environment) : Option Float → Environment
  | some x => env.bindNumber resultVariable x
  | none => env

theorem SectionState.bind_eq (env : Environment) (state : SectionState) :
    state.bind env = env.withResult state.value? := by
  cases state with
  | calculator outcome => cases outcome <;> rfl
  | _ => rfl

theorem Environment.withResult_withResult (env : Environment) (x? y? : Option Float) :
    (env.withResult x?).withResult y? = env.withResult (y?.or x?) := by
  cases y? with
  | none => rfl
  | some y =>
    cases x? with
    | none => rfl
    | some x => exact Dict.insert_insert env _ _ _

/-- Names stay bound when the result is bound anew. -/
theorem Environment.bound_withResult {names : List String} (x? : Option Float)
    (h : ∀ name ∈ names, ∃ v, env.get? name = some v) :
    ∀ name ∈ names, ∃ v, (env.withResult x?).get? name = some v := by
  intro name hname
  cases x? with
  | none => exact h name hname
  | some x =>
    by_cases he : name = resultVariable
    · exact ⟨_, (Dict.get?_insert ..).trans (if_pos he)⟩
    · obtain ⟨v, hv⟩ := h name hname
      exact ⟨v, (Dict.get?_insert ..).trans ((if_neg he).trans hv)⟩

theorem lastValue?_cons (view : SectionView) (views : List SectionView) :
    lastValue? (view :: views) = (lastValue? views).or view.state.value? := by
  simp [lastValue?, List.findSome?_append]

/-- The section is no calculator that comes to a value. -/
def Section.Idle (s : Section) (scope : Environment) : Prop :=
  ∀ part, s = .calculator part → ∀ x, evaluateFormula part.formula scope ≠ .ok x

theorem Section.Idle.value? (h : s.Idle scope) (he : s.evaluate scope = .ok state) :
    state.value? = none := by
  cases s with
  | text part | form part | wizard part =>
    cases he
    rfl
  | calculator part =>
    obtain ⟨outcome, ho, rfl⟩ := except_map_eq_ok.mp he
    cases outcome with
    | error e => rfl
    | ok output =>
      exact absurd (CalculatorSection.value_of_evaluate ho).symm (h part rfl output.value)
  | result part =>
    rcases ResultSection.state_of_evaluate he with ⟨e, _, rfl⟩ | ⟨_, rfl⟩ | ⟨_, text, rfl⟩ <;> rfl

variable {start : Nat} {before after sections : List Section} {views : List SectionView}

theorem evaluateFrom_cons_eq_ok : evaluateFrom start env (s :: sections) = .ok views ↔
    ∃ state rest, s.evaluate env = .ok state ∧
      evaluateFrom (start + 1) (state.bind env) sections = .ok rest ∧
      views = ⟨start, s.kind, s.heading, state⟩ :: rest := by
  simp only [evaluateFrom, except_bind_eq_ok, except_pure, Except.ok.injEq, eq_comm (b := views)]
  constructor
  · rintro ⟨state, hs, rest, hrest, hviews⟩
    exact ⟨state, rest, hs, hrest, hviews⟩
  · rintro ⟨state, rest, hs, hrest, hviews⟩
    exact ⟨state, hs, rest, hrest, hviews⟩

/-- Sections behind others see of them the last value, and nothing else. -/
theorem evaluateFrom_append_eq_ok : evaluateFrom start env (before ++ after) = .ok views ↔
    ∃ front back, evaluateFrom start env before = .ok front ∧
      evaluateFrom (start + before.length) (env.withResult (lastValue? front)) after = .ok back ∧
      views = front ++ back := by
  induction before generalizing start env views with
  | nil =>
    constructor
    · intro h
      exact ⟨[], views, rfl, h, rfl⟩
    · rintro ⟨front, back, hfront, hback, rfl⟩
      cases hfront
      exact hback
  | cons s before ih =>
    -- the value of the first section is what those behind it see, unless a later one replaces it
    have hscope (state : SectionState) (rest : List SectionView) :
        env.withResult (lastValue? (⟨start, s.kind, s.heading, state⟩ :: rest)) =
          (state.bind env).withResult (lastValue? rest) := by
      rw [lastValue?_cons, SectionState.bind_eq, Environment.withResult_withResult]
    have hplace : start + (s :: before).length = start + 1 + before.length := by
      simp only [List.length_cons]
      omega
    simp only [List.cons_append, evaluateFrom_cons_eq_ok, ih, hplace]
    constructor
    · rintro ⟨state, _, hs, ⟨front, back, hfront, hback, rfl⟩, rfl⟩
      refine ⟨_, back, ⟨state, front, hs, hfront, rfl⟩, ?_, rfl⟩
      rw [hscope]
      exact hback
    · rintro ⟨_, back, ⟨state, front, hs, hfront, rfl⟩, hback, rfl⟩
      rw [hscope] at hback
      exact ⟨state, front ++ back, hs, ⟨front, back, hfront, hback, rfl⟩, rfl⟩

theorem length_of_evaluateFrom (h : evaluateFrom start env sections = .ok views) :
    views.length = sections.length := by
  induction sections generalizing start env views with
  | nil =>
    cases h
    rfl
  | cons s sections ih =>
    obtain ⟨state, rest, _, hrest, rfl⟩ := evaluateFrom_cons_eq_ok.mp h
    simp [ih hrest]

theorem evaluateFrom_of_renders (h : ∀ s ∈ sections, s.Renders) :
    ∃ views, evaluateFrom start env sections = .ok views := by
  induction sections generalizing start env with
  | nil => exact ⟨[], rfl⟩
  | cons s sections ih =>
    obtain ⟨hs, hsections⟩ := List.forall_mem_cons.mp h
    obtain ⟨state, hstate⟩ := hs.evaluate env
    obtain ⟨rest, hrest⟩ := ih hsections
    exact ⟨_, evaluateFrom_cons_eq_ok.mpr ⟨state, rest, hstate, hrest, rfl⟩⟩

variable {d : Document} {i : Nat}

/-- What is seen behind other sections: the environment, in which the result is the last value of
their views if there is one. -/
structure Sees (env : Environment) (views : List SectionView) (scope : Environment) : Prop where
  others : ∀ name, name ≠ resultVariable → scope.get? name = env.get? name
  result : scope.get? resultVariable =
    ((lastValue? views).map Json.ofComputed).or (env.get? resultVariable)

theorem sees_withResult : Sees env views (env.withResult (lastValue? views)) := by
  cases hx : lastValue? views with
  | none => exact ⟨fun _ _ => rfl, by simp [hx, Environment.withResult]⟩
  | some x =>
    constructor
    · intro name hne
      exact (Dict.get?_insert ..).trans (if_neg hne)
    · rw [hx]
      exact (Dict.get?_insert ..).trans (if_pos rfl)

theorem length_take_of_getElem? {sections : List Section} (hs : sections[i]? = some s) :
    (sections.take i).length = i :=
  List.length_take_of_le (Nat.le_of_lt (List.getElem?_eq_some_iff.mp hs).1)

/-- The view of a section between the views of those before it and those behind it. -/
theorem Document.evaluate_eq_ok_at (hs : d.sections[i]? = some s) : d.evaluate env = .ok views ↔
    ∃ front state back, evaluateFrom 0 env (d.sections.take i) = .ok front ∧
      s.evaluate (env.withResult (lastValue? front)) = .ok state ∧
      evaluateFrom (i + 1) (state.bind (env.withResult (lastValue? front)))
        (d.sections.drop (i + 1)) = .ok back ∧
      views = front ++ ⟨i, s.kind, s.heading, state⟩ :: back := by
  have hlength := length_take_of_getElem? hs
  obtain ⟨hi, rfl⟩ := List.getElem?_eq_some_iff.mp hs
  have hsplit : d.evaluate env = evaluateFrom 0 env
      (d.sections.take i ++ d.sections[i] :: d.sections.drop (i + 1)) := by
    rw [← List.drop_eq_getElem_cons hi, List.take_append_drop]
    rfl
  rw [hsplit, evaluateFrom_append_eq_ok, hlength, Nat.zero_add]
  simp only [evaluateFrom_cons_eq_ok]
  constructor
  · rintro ⟨front, _, hfront, ⟨state, back, hstate, hback, rfl⟩, rfl⟩
    exact ⟨front, state, back, hfront, hstate, hback, rfl⟩
  · rintro ⟨front, state, back, hfront, hstate, hback, rfl⟩
    exact ⟨front, _, hfront, ⟨state, back, hstate, hback, rfl⟩, rfl⟩

theorem Document.evaluate_take (h : d.evaluate env = .ok views) (k : Nat) :
    Document.evaluate { d with sections := d.sections.take k } env = .ok (views.take k) := by
  change evaluateFrom 0 env d.sections = .ok views at h
  rw [← List.take_append_drop k d.sections, evaluateFrom_append_eq_ok] at h
  obtain ⟨front, back, hfront, hback, rfl⟩ := h
  have hfrontLength : front.length = min k d.sections.length := by
    rw [length_of_evaluateFrom hfront, List.length_take]
  have hbackLength : back.length = d.sections.length - k := by
    rw [length_of_evaluateFrom hback, List.length_drop]
  have hnone : back.take (k - front.length) = [] := by
    by_cases hk : k ≤ d.sections.length
    · rw [hfrontLength, Nat.min_eq_left hk, Nat.sub_self, List.take_zero]
    · have hempty : back = [] := List.eq_nil_of_length_eq_zero (by omega)
      rw [hempty, List.take_nil]
  have hall : front.take k = front := List.take_of_length_le (by omega)
  rw [List.take_append, hnone, List.append_nil, hall]
  exact hfront

theorem Document.length_of_front {front : List SectionView} (hs : d.sections[i]? = some s)
    (hfront : evaluateFrom 0 env (d.sections.take i) = .ok front) : front.length = i := by
  rw [length_of_evaluateFrom hfront, length_take_of_getElem? hs]

/-- A section is evaluated where at most the result is bound anew. -/
theorem Document.Renders.viewed_at (h : d.Renders) (hs : d.sections[i]? = some s)
    (env : Environment) : ∃ views view x?, d.evaluate env = .ok views ∧ views[i]? = some view ∧
      s.evaluate (env.withResult x?) = .ok view.state := by
  obtain ⟨views, hviews⟩ : ∃ views, d.evaluate env = .ok views := evaluateFrom_of_renders h
  obtain ⟨front, state, back, hfront, hstate, _, rfl⟩ := (evaluate_eq_ok_at hs).mp hviews
  have hlength : front.length = i := length_of_front hs hfront
  exact ⟨_, ⟨i, s.kind, s.heading, state⟩, lastValue? front, hviews, by simp [← hlength], hstate⟩

/-- A section that leaves no value may take the place of another such section. -/
theorem Document.evaluate_set {front back : List SectionView} {state' : SectionState}
    (hs : d.sections[i]? = some s) (hfront : evaluateFrom 0 env (d.sections.take i) = .ok front)
    (hback : evaluateFrom (i + 1) (state.bind (env.withResult (lastValue? front)))
      (d.sections.drop (i + 1)) = .ok back) (hvalue : state.value? = none)
    (hstate' : s'.evaluate (env.withResult (lastValue? front)) = .ok state')
    (hvalue' : state'.value? = none) :
    Document.evaluate { d with sections := d.sections.set i s' } env =
      .ok (front ++ ⟨i, s'.kind, s'.heading, state'⟩ :: back) := by
  have hi := (List.getElem?_eq_some_iff.mp hs).1
  have hget : (d.sections.set i s')[i]? = some s' := by simp [hi]
  refine (evaluate_eq_ok_at hget).mpr ⟨front, state', back, ?_, hstate', ?_, rfl⟩
  · rw [List.take_set_of_le (Nat.le_refl i)]
    exact hfront
  · rw [List.drop_set_of_lt (Nat.lt_succ_self i), SectionState.bind_eq, hvalue']
    rw [SectionState.bind_eq, hvalue] at hback
    exact hback

/-- Every section has its view, in place and of its kind. A section is evaluated in the initial
environment with the last value before it as the result, the sections in front of any place come
to the same without those behind it, and a section that leaves no value can be put in place of
another one without a change to any other view. -/
theorem Document.evaluate_local_and_causal (h : d.Renders) (env : Environment) :
    ∃ views, d.evaluate env = .ok views ∧ views.length = d.sections.length ∧
      (∀ k, Document.evaluate { d with sections := d.sections.take k } env =
        .ok (views.take k)) ∧
      ∀ i s, d.sections[i]? = some s → ∃ view scope, views[i]? = some view ∧
        view.index = i ∧ view.kind = s.kind ∧ view.heading = s.heading ∧
        Sees env (views.take i) scope ∧ s.evaluate scope = .ok view.state ∧
        ∀ s' : Section, s'.Renders → s.Idle scope → s'.Idle scope →
          ∃ view', Document.evaluate { d with sections := d.sections.set i s' } env =
            .ok (views.set i view') := by
  obtain ⟨views, hviews⟩ : ∃ views, d.evaluate env = .ok views := evaluateFrom_of_renders h
  refine ⟨views, hviews, length_of_evaluateFrom hviews, evaluate_take hviews, ?_⟩
  intro i s hs
  obtain ⟨front, state, back, hfront, hstate, hback, rfl⟩ := (evaluate_eq_ok_at hs).mp hviews
  have hlength : front.length = i := length_of_front hs hfront
  have htake (rest : List SectionView) : (front ++ rest).take i = front := by
    rw [← hlength, List.take_left]
  refine ⟨⟨i, s.kind, s.heading, state⟩, env.withResult (lastValue? front), ?_, rfl, rfl, rfl, ?_,
    hstate, ?_⟩
  · simp [← hlength]
  · rw [htake]
    exact sees_withResult
  · intro s' hrenders hidle hidle'
    obtain ⟨state', hstate'⟩ := hrenders.evaluate (env.withResult (lastValue? front))
    refine ⟨⟨i, s'.kind, s'.heading, state'⟩, ?_⟩
    rw [evaluate_set hs hfront hback (hidle.value? hstate) hstate' (hidle'.value? hstate')]
    simp [← hlength, List.set_append_right]

def squareFeet : String := "\x7b\x7bresult\x7d\x7d sq ft"

theorem squareFeet_rendered (env : Environment) :
    ∃ text, interpolate squareFeet env = .ok text := by
  have hparse : Template.parse squareFeet.toList = some
      [.value ⟨.path ⟨"result", [.named "result"]⟩, [], []⟩, .text " sq ft"] := by
    unfold squareFeet
    cbv
  simp only [interpolate, hparse]
  exact ⟨_, rfl⟩

def garden : Document where
  identity := ⟨"Garden", "garden", "Measures a garden", none⟩
  sections := [.text ⟨none, "Your garden"⟩,
    .calculator ⟨none, [], "6 * 7", "Area", some squareFeet⟩, .result ⟨none, squareFeet, none⟩]
  crm := none
  settings := none

/-- A calculator whose formula breaks off. -/
def brokenOff : CalculatorSection := ⟨none, [], "length *", "Area", none⟩

theorem evaluate_local_and_causal_garden :
    garden.Renders ∧ ∃ views, garden.evaluate {} = .ok views ∧ views.length = 3 ∧
      ∃ view, Document.evaluate
        { garden with sections := garden.sections.set 0 (.calculator brokenOff) } {} =
          .ok (views.set 0 view) := by
  have hrenders : garden.Renders := by
    intro s hs template ht env
    have hsquare : template = squareFeet := by
      simp only [garden, List.mem_cons, List.not_mem_nil, or_false] at hs
      rcases hs with rfl | rfl | rfl
      · cases ht
      · exact List.mem_singleton.mp ht
      · exact List.mem_singleton.mp ht
    rw [hsquare]
    exact squareFeet_rendered env
  have htext (scope : Environment) : Section.Idle (.text ⟨none, "Your garden"⟩) scope := by
    intro part h
    cases h
  have hbroken (scope : Environment) : Section.Idle (.calculator brokenOff) scope := by
    intro part h x hx
    cases h
    have hparse : Expr.parse "length *" = .error (.malformed 8 .unexpectedEnd) := by cbv
    simp [evaluateFormula, brokenOff, hparse] at hx
  obtain ⟨views, hviews, hlength, _, hsections⟩ :=
    Document.evaluate_local_and_causal hrenders {}
  obtain ⟨_, scope, _, _, _, _, _, _, hset⟩ := hsections 0 (.text ⟨none, "Your garden"⟩) rfl
  have hplain : Section.Renders (.calculator brokenOff) := by
    intro template ht
    cases ht
  exact ⟨hrenders, views, hviews, hlength, hset _ hplain (htext scope) (hbroken scope)⟩

end AppDef
