import AppDef.Proofs.Validation
import AppDef.Wizard
import Mathlib.Data.List.Induction

namespace AppDef

/-- What can be asked of a wizard. -/
inductive WizardMove where
  | next (values : Values)
  | back

/-- One move of a run: where it was made, what was answered and where it led. -/
structure WizardTurn where
  before : WizardState
  move : WizardMove
  answer : Except WizardError WizardState
  after : WizardState

namespace WizardSection

variable {s : WizardSection} {moves : List WizardMove} {past : List WizardTurn} {t : WizardTurn}

def answer (s : WizardSection) (state : WizardState) : WizardMove → Except WizardError WizardState
  | .next values => s.next values state
  | .back => .ok state.back

/-- A move that fails leaves the wizard where it is. -/
def turn (s : WizardSection) (state : WizardState) (move : WizardMove) : WizardTurn where
  before := state
  move := move
  answer := s.answer state move
  after := (s.answer state move).toOption.getD state

def turnsFrom (s : WizardSection) (state : WizardState) : List WizardMove → List WizardTurn
  | [] => []
  | move :: moves => s.turn state move :: s.turnsFrom (s.turn state move).after moves

/-- The turns that moves make from the start on. -/
def turns (s : WizardSection) (moves : List WizardMove) : List WizardTurn :=
  s.turnsFrom s.initial moves

/-- The state that moves lead to from the start on. -/
def reached (s : WizardSection) (moves : List WizardMove) : WizardState :=
  ((s.turns moves).getLast?.map (·.after)).getD s.initial

theorem turnsFrom_concat (state : WizardState) (move : WizardMove) :
    s.turnsFrom state (moves ++ [move]) = s.turnsFrom state moves ++
      [s.turn (((s.turnsFrom state moves).getLast?.map (·.after)).getD state) move] := by
  induction moves generalizing state with
  | nil => rfl
  | cons m moves ih =>
    rw [List.cons_append, turnsFrom, ih, turnsFrom, List.getLast?_cons]
    cases (s.turnsFrom (s.turn state m).after moves).getLast? <;> rfl

theorem turns_concat (move : WizardMove) :
    s.turns (moves ++ [move]) = s.turns moves ++ [s.turn (s.reached moves) move] :=
  turnsFrom_concat s.initial move

theorem reached_concat (move : WizardMove) :
    s.reached (moves ++ [move]) = (s.turn (s.reached moves) move).after := by
  rw [reached, turns_concat, List.getLast?_concat]
  rfl

/-- A completed wizard stands behind its last step. -/
def position (s : WizardSection) : WizardState → Nat
  | .step i => i
  | .completed => s.steps.length

/-- The wizard is completed or stands at a step that there is. -/
def Stands (s : WizardSection) (state : WizardState) : Prop :=
  state = .completed ∨ ∃ i < s.steps.length, state = .step i

theorem stepAt?_eq_some_iff {state : WizardState} {step : WizardStep} :
    s.stepAt? state = some step ↔ ∃ i, state = .step i ∧ s.steps[i]? = some step := by
  cases state <;> simp [stepAt?]

theorem mem_of_stepAt? {state : WizardState} {step : WizardStep}
    (h : s.stepAt? state = some step) : step ∈ s.steps := by
  obtain ⟨i, -, hi⟩ := stepAt?_eq_some_iff.mp h
  exact List.mem_of_getElem? hi

theorem next_of_valid {i : Nat} {step : WizardStep} {values : Values}
    (hs : s.steps[i]? = some step) (hv : (validate step.fields values).valid = true) :
    s.next values (.step i) = .ok (s.after i) := by
  simp [next, hs, hv]

theorem next_of_invalid {i : Nat} {step : WizardStep} {values : Values}
    (hs : s.steps[i]? = some step) (hv : (validate step.fields values).valid = false) :
    s.next values (.step i) = .error (.invalid (validate step.fields values).errors) := by
  simp [next, hs, hv]

/-- All that a turn can be. -/
inductive Makes (s : WizardSection) : WizardTurn → Prop
  | forward {i step values} (hs : s.steps[i]? = some step)
      (hv : (validate step.fields values).valid = true) :
      Makes s ⟨.step i, .next values, .ok (s.after i), s.after i⟩
  | refused {i step values} (hs : s.steps[i]? = some step)
      (hv : (validate step.fields values).valid = false) :
      Makes s ⟨.step i, .next values, .error (.invalid (validate step.fields values).errors),
        .step i⟩
  | closed (values) : Makes s ⟨.completed, .next values, .error .completed, .completed⟩
  | backward (i) : Makes s ⟨.step (i + 1), .back, .ok (.step i), .step i⟩
  | atFirst : Makes s ⟨.step 0, .back, .ok (.step 0), .step 0⟩
  | atEnd : Makes s ⟨.completed, .back, .ok .completed, .completed⟩

theorem makes_turn {state : WizardState} (h : s.Stands state) (move : WizardMove) :
    s.Makes (s.turn state move) := by
  rcases h with rfl | ⟨i, hi, rfl⟩
  · cases move with
    | next values => exact .closed values
    | back => exact .atEnd
  · cases move with
    | next values =>
      have hs : s.steps[i]? = some s.steps[i] := List.getElem?_eq_getElem hi
      cases hv : (validate s.steps[i].fields values).valid with
      | true =>
        have ht : s.turn (.step i) (.next values) =
            ⟨.step i, .next values, .ok (s.after i), s.after i⟩ := by
          simp [turn, answer, next_of_valid hs hv, Except.toOption]
        exact ht ▸ .forward hs hv
      | false =>
        have ht : s.turn (.step i) (.next values) = ⟨.step i, .next values,
            .error (.invalid (validate s.steps[i].fields values).errors), .step i⟩ := by
          simp [turn, answer, next_of_invalid hs hv, Except.toOption]
        exact ht ▸ .refused hs hv
    | back =>
      cases i with
      | zero => exact .atFirst
      | succ i => exact .backward i

theorem stands_after {i : Nat} : s.Stands (s.after i) := by
  unfold after
  split
  · exact .inr ⟨i + 1, ‹_›, rfl⟩
  · exact .inl rfl

theorem position_after {i : Nat} (hi : i < s.steps.length) : s.position (s.after i) = i + 1 := by
  unfold after
  split
  · rfl
  · simp only [position]
    omega

theorem Makes.stands (ht : s.Makes t) (hb : s.Stands t.before) : s.Stands t.after := by
  cases ht with
  | forward _ _ => exact stands_after
  | refused _ _ | closed _ | atFirst | atEnd => exact hb
  | backward i =>
    rcases hb with hb | ⟨j, hj, hb⟩
    · cases hb
    · cases hb
      exact .inr ⟨i, by omega, rfl⟩

/-- A turn leads at most one step on or back. -/
theorem Makes.near (ht : s.Makes t) :
    s.position t.after ≤ s.position t.before + 1 ∧
      s.position t.before ≤ s.position t.after + 1 := by
  cases ht with
  | @forward i step values hs hv =>
    obtain ⟨hi, _⟩ := List.getElem?_eq_some_iff.mp hs
    simp only [position_after hi]
    simp only [position]
    omega
  | refused _ _ | closed _ | atFirst | atEnd => simp [position]
  | backward i =>
    simp only [position]
    omega

/-- The last of the turns made at the step `j` took values that its fields accept. -/
def LeftValid (s : WizardSection) (past : List WizardTurn) (j : Nat) : Prop :=
  ∃ step t values, s.steps[j]? = some step ∧
    past.reverse.find? (·.before == .step j) = some t ∧ t.move = .next values ∧
    (validate step.fields values).valid = true

theorem LeftValid.concat {j : Nat} (h : s.LeftValid past j) (ht : t.before ≠ .step j) :
    s.LeftValid (past ++ [t]) j := by
  obtain ⟨step, t', values, hs, hf, hm, hv⟩ := h
  exact ⟨step, t', values, hs, by simp [ht, hf], hm, hv⟩

/-- Going back leaves only steps that are no longer behind the wizard. -/
theorem Makes.leftValid (ht : s.Makes t) (h : ∀ j < s.position t.before, s.LeftValid past j) :
    ∀ j < s.position t.after, s.LeftValid (past ++ [t]) j := by
  intro j hj
  cases ht with
  | @forward i step values hs hv =>
    obtain ⟨hi, _⟩ := List.getElem?_eq_some_iff.mp hs
    by_cases he : j = i
    · subst he
      exact ⟨step, _, values, hs, by simp; rfl, rfl, hv⟩
    · have hlt : j < i := by
        simp only [position_after hi] at hj
        omega
      exact (h j hlt).concat (by simp [Ne.symm he])
  | @refused i step values _ _ =>
    have hlt : j < i := hj
    exact (h j hlt).concat (by simp; omega)
  | closed _ | atEnd => exact (h j hj).concat (by simp)
  | backward i =>
    have hlt : j < i := hj
    exact (h j (Nat.lt_succ_of_lt hlt)).concat (by simp; omega)
  | atFirst => exact absurd hj (Nat.not_lt_zero j)

theorem initial_eq_completed_iff : s.initial = .completed ↔ s.steps = [] := by
  cases h : s.steps <;> simp [initial, h]

theorem stands_initial : s.Stands s.initial := by
  cases h : s.steps with
  | nil => exact .inl (initial_eq_completed_iff.mpr h)
  | cons step steps => exact .inr ⟨0, by simp [h], by simp [initial, h]⟩

theorem position_initial : s.position s.initial = 0 := by
  cases h : s.steps <;> simp [initial, position, h]

/-- What is carried along a run: the wizard stands somewhere, each turn so far was one that can be
made, and what lies behind was left with valid values. -/
structure OnCourse (s : WizardSection) (past : List WizardTurn) (state : WizardState) : Prop where
  stands : s.Stands state
  made : ∀ t ∈ past, s.Stands t.before ∧ s.Makes t
  left : ∀ j < s.position state, s.LeftValid past j

theorem OnCourse.turn {state : WizardState} (h : s.OnCourse past state) (move : WizardMove) :
    s.OnCourse (past ++ [s.turn state move]) (s.turn state move).after := by
  have hmakes : s.Makes (s.turn state move) := makes_turn h.stands move
  refine ⟨hmakes.stands h.stands, ?_, hmakes.leftValid h.left⟩
  intro t ht
  rcases List.mem_append.mp ht with ht | ht
  · exact h.made t ht
  · rw [List.mem_singleton.mp ht]
    exact ⟨h.stands, hmakes⟩

theorem onCourse_reached (s : WizardSection) (moves : List WizardMove) :
    s.OnCourse (s.turns moves) (s.reached moves) := by
  induction moves using List.reverseRecOn with
  | nil =>
    refine ⟨stands_initial, fun t ht => absurd ht List.not_mem_nil, ?_⟩
    intro j hj
    change j < s.position s.initial at hj
    rw [position_initial] at hj
    exact absurd hj (Nat.not_lt_zero j)
  | append_singleton moves move ih =>
    rw [turns_concat, reached_concat]
    exact ih.turn move

/-- What holds of one turn of a run. -/
structure Orderly (s : WizardSection) (t : WizardTurn) : Prop where
  stands : s.Stands t.before ∧ s.Stands t.after
  near : s.position t.after ≤ s.position t.before + 1 ∧ s.position t.before ≤ s.position t.after + 1
  /-- A failure tells all that is wrong with the values, and changes nothing. -/
  failed : ∀ e, t.answer = .error e → t.after = t.before ∧ ∃ values, t.move = .next values ∧
    (t.before = .completed ∧ e = .completed ∨
      ∃ i step, ∃ found : Validation, t.before = .step i ∧ s.steps[i]? = some step ∧
        found.Accounts step.fields values ∧ found.errors ≠ [] ∧ e = .invalid found.errors)
  forward : ∀ i step values, t.before = .step i → s.steps[i]? = some step →
    t.move = .next values → (validate step.fields values).valid = true →
    t.answer = .ok t.after ∧ s.position t.after = i + 1
  back : t.move = .back → t.answer = .ok t.after ∧ (t.before = .step 0 → t.after = .step 0)
  absorbed : t.before = .completed → t.after = .completed ∧
    ∀ values, t.move = .next values → t.answer = .error .completed

theorem Makes.orderly (ht : s.Makes t) (hb : s.Stands t.before) : s.Orderly t where
  stands := ⟨hb, ht.stands hb⟩
  near := ht.near
  failed := by
    intro e he
    cases ht with
    | forward _ _ | backward _ | atFirst | atEnd => cases he
    | closed values =>
      cases he
      exact ⟨rfl, values, rfl, .inl ⟨rfl, rfl⟩⟩
    | @refused i step values hs hv =>
      cases he
      have hne : (validate step.fields values).errors ≠ [] := by
        intro hnil
        simp [Validation.valid, hnil] at hv
      exact ⟨rfl, values, rfl, .inr ⟨i, step, _, rfl, hs, validate_accounts _ _, hne, rfl⟩⟩
  forward := by
    intro i step values hi hs hm hv
    cases ht with
    | forward hs' _ =>
      cases hi
      exact ⟨rfl, position_after (List.getElem?_eq_some_iff.mp hs').1⟩
    | refused hs' hv' =>
      cases hi
      cases hm
      rw [hs] at hs'
      cases hs'
      rw [hv] at hv'
      cases hv'
    | closed _ | atEnd => cases hi
    | backward _ | atFirst => cases hm
  back := by
    intro hm
    cases ht with
    | forward _ _ | refused _ _ | closed _ => cases hm
    | backward _ | atEnd => exact ⟨rfl, fun hfirst => by cases hfirst⟩
    | atFirst => exact ⟨rfl, fun _ => rfl⟩
  absorbed := by
    intro hc
    cases ht with
    | forward _ _ | refused _ _ | backward _ | atFirst => cases hc
    | closed _ => exact ⟨rfl, fun _ _ => rfl⟩
    | atEnd => exact ⟨rfl, fun values hm => by cases hm⟩

/-- Whatever moves are made, each turn is orderly, and each step behind the wizard was last left
by values that its fields accept. -/
theorem run_orderly_and_left_valid (s : WizardSection) (moves : List WizardMove) :
    (s.initial = .completed ↔ s.steps = []) ∧ s.Stands (s.reached moves) ∧
      (∀ t ∈ s.turns moves, s.Orderly t) ∧
      ∀ j < s.position (s.reached moves), s.LeftValid (s.turns moves) j := by
  have h : s.OnCourse (s.turns moves) (s.reached moves) := onCourse_reached s moves
  refine ⟨initial_eq_completed_iff, h.stands, ?_, h.left⟩
  intro t ht
  obtain ⟨hb, hm⟩ := h.made t ht
  exact hm.orderly hb

/-- Two steps, of which the first asks for a name. -/
def nameThenRest : WizardSection where
  heading := none
  steps := [⟨"Name", none, [⟨"name", "Name", .text, none, true, [], none, none, {}⟩]⟩,
    ⟨"Rest", none, []⟩]

def named : Values :=
  Dict.empty.insert "name" (.text "A")

theorem run_orderly_and_left_valid_nameThenRest :
    nameThenRest.reached [.next {}, .next named, .back, .next named, .next {}] = .completed ∧
      nameThenRest.LeftValid
        (nameThenRest.turns [.next {}, .next named, .back, .next named, .next {}]) 0 :=
  ⟨rfl, (run_orderly_and_left_valid nameThenRest
    [.next {}, .next named, .back, .next named, .next {}]).2.2.2 0 (by decide)⟩

end WizardSection

end AppDef
