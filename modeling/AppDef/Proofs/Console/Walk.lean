import AppDef.Console.Walk
import AppDef.Proofs.Dict
import AppDef.Proofs.Wizard

namespace AppDef

namespace Field

variable {f : Field} {values : Values}

/-- The values with the default of the field, where they have none for it. -/
def defaulted (f : Field) (values : Values) : Values :=
  match f.defaultValue with
  | some v => if values.contains f.name then values else values.insert f.name v
  | none => values

/-- There is nothing for which the default of the field could stand in. -/
def Filled (f : Field) (values : Values) : Prop :=
  f.defaultValue.isSome = true → values.contains f.name = true

theorem Filled.defaulted_eq (h : f.Filled values) : f.defaulted values = values := by
  unfold defaulted
  cases hd : f.defaultValue with
  | none => rfl
  | some v => simp [h (by simp [hd])]

theorem contains_defaulted {name : String} (h : values.contains name = true) :
    (f.defaulted values).contains name = true := by
  unfold defaulted
  cases f.defaultValue with
  | none => exact h
  | some v =>
    dsimp only
    split
    · exact h
    · rw [Dict.contains_insert, h, Bool.or_true]

theorem filled_defaulted : f.Filled (f.defaulted values) := by
  intro h
  obtain ⟨v, hv⟩ := Option.isSome_iff_exists.mp h
  simp only [defaulted, hv]
  split
  · assumption
  · rw [Dict.contains_insert, beq_self_eq_true, Bool.true_or]

end Field

namespace Walk

variable {α β : Type}

/-- The walk ends from this session: with something that holds of its value and of the session
behind it, or in a failure other than that there is no end. -/
def Settles (x : Walk α) (s : Session) (Q : α → Session → Prop) : Prop :=
  match x s with
  | (.ok a, s') => Q a s'
  | (.error failure, _) => failure ≠ .endless

section Settles

variable {x : Walk α} {f : α → Walk β} {s : Session} {Q Q' : α → Session → Prop}
  {R : β → Session → Prop}

theorem bind_eq (x : Walk α) (f : α → Walk β) (s : Session) :
    (x >>= f) s = match x s with
      | (.ok a, s') => f a s'
      | (.error failure, s') => (.error failure, s') := by
  change StateT.bind x (ExceptT.bindCont f) s = _
  rcases h : x s with ⟨outcome, s'⟩
  simp only [StateT.bind, h]
  cases outcome <;> rfl

theorem bind_of_ok {a : α} {s' : Session} (h : x s = (.ok a, s')) : (x >>= f) s = f a s' := by
  rw [bind_eq, h]

theorem bind_of_error {failure : WalkFailure} {s' : Session} (h : x s = (.error failure, s')) :
    (x >>= f) s = (.error failure, s') := by
  rw [bind_eq, h]

@[simp] theorem get_eq (s : Session) : (get : Walk Session) s = (.ok s, s) :=
  rfl

@[simp] theorem modify_eq (change : Session → Session) (s : Session) :
    (modify change : Walk Unit) s = (.ok (), change s) :=
  rfl

theorem discard_eq (x : Walk α) : discard x = x >>= fun _ => pure () :=
  rfl

theorem Settles.bind (h : Settles x s Q) (hf : ∀ a s', Q a s' → Settles (f a) s' R) :
    Settles (x >>= f) s R := by
  unfold Settles at h ⊢
  rw [bind_eq]
  rcases hx : x s with ⟨outcome, s'⟩
  rw [hx] at h
  cases outcome with
  | ok a => exact hf a s' h
  | error failure => exact h

theorem Settles.mono (h : Settles x s Q) (hQ : ∀ a s', Q a s' → Q' a s') : Settles x s Q' := by
  unfold Settles at h ⊢
  rcases hx : x s with ⟨outcome, s'⟩
  rw [hx] at h
  cases outcome with
  | ok a => exact hQ a s' h
  | error failure => exact h

theorem Settles.ne_endless (h : Settles x s Q) : (x s).1 ≠ .error .endless := by
  unfold Settles at h
  rcases hx : x s with ⟨outcome, s'⟩
  rw [hx] at h
  cases outcome with
  | ok a => simp
  | error failure => simpa using h

theorem Settles.of_eq_ok {x : Walk α} {Q : α → Session → Prop} {a : α} (h : Settles x s Q)
    {s' : Session} (hx : x s = (.ok a, s')) : Q a s' := by
  unfold Settles at h
  rwa [hx] at h

theorem settles_pure {a : α} (h : Q a s) : Settles (pure a) s Q :=
  h

theorem settles_throw {failure : WalkFailure} (h : failure ≠ .endless) :
    Settles (throw failure : Walk α) s Q :=
  h

theorem settles_get : Settles get s fun now s' => now = s ∧ s' = s :=
  ⟨rfl, rfl⟩

theorem settles_modify {change : Session → Session} {Q : Unit → Session → Prop}
    (h : Q () (change s)) : Settles (modify change) s Q :=
  h

theorem settles_forM {I : Session → Prop} {f : α → Walk Unit} {l : List α}
    (hf : ∀ a ∈ l, ∀ s, I s → Settles (f a) s fun _ => I) (h : I s) :
    Settles (l.forM f) s fun _ => I := by
  induction l generalizing s with
  | nil => exact settles_pure h
  | cons a l ih =>
    obtain ⟨ha, hl⟩ := List.forall_mem_cons.mp hf
    change Settles (f a >>= fun _ => l.forM f) s _
    exact (ha s h).bind fun _ s' hs' => ih hl hs'

theorem settles_discard (h : Settles x s Q) : Settles (discard x) s fun _ s' => ∃ a, Q a s' := by
  rw [discard_eq]
  exact h.bind fun a s' hs' => settles_pure ⟨a, hs'⟩

end Settles

/-- Where the one walk ends, the other is the same. -/
def Approximates (x y : Walk α) : Prop :=
  ∀ s, (x s).1 ≠ .error .endless → y s = x s

theorem Approximates.refl (x : Walk α) : Approximates x x :=
  fun _ _ => rfl

theorem approximates_endless (y : Walk α) : Approximates (throw .endless) y :=
  fun _ h => absurd rfl h

theorem Approximates.bind {x y : Walk α} {f g : α → Walk β} (h : Approximates x y)
    (hf : ∀ a, Approximates (f a) (g a)) : Approximates (x >>= f) (y >>= g) := by
  intro s hs
  rw [bind_eq] at hs ⊢
  rw [bind_eq]
  rcases hx : x s with ⟨outcome, s'⟩
  rw [hx] at hs
  cases outcome with
  | ok a =>
    have hy : y s = (.ok a, s') := by rw [h s (by simp [hx]), hx]
    rw [hy]
    exact hf a s' hs
  | error failure =>
    have hy : y s = (.error failure, s') := by rw [h s (by simpa [hx] using hs), hx]
    rw [hy]

/-- What is told of a line that settles nothing, before the prompt is shown again. -/
def complaint? (inWizard : Bool) (f : Field) (values : Values) (line : String) :
    Option Transcript :=
  if isExit line then none
  else
    match turn inWizard f values line with
    | .again more => some more
    | _ => none

/-- The end of a prompt at the first of the lines, if there is one. -/
inductive PromptEnds (inWizard : Bool) (f : Field) (values : Values) :
    List String → Except WalkFailure Flow → List String → Values → Prop
  | inputEnded : PromptEnds inWizard f values [] (.error .inputEnded) [] values
  | aborted {line : String} {lines : List String} (h : isExit line = true) :
      PromptEnds inWizard f values (line :: lines) (.error .aborted) lines values
  | answered {line : String} {lines : List String} {values' : Values} (h : isExit line = false)
      (ht : turn inWizard f values line = .proceed values') :
      PromptEnds inWizard f values (line :: lines) (.ok .next) lines values'
  | wentBack {line : String} {lines : List String} (h : isExit line = false)
      (ht : turn inWizard f values line = .goBack) :
      PromptEnds inWizard f values (line :: lines) (.ok .back) lines values

/-- The prompt is shown once for each line that is refused, and once more for the line that ends it
or for the end of the lines. -/
def Prompted (verbose inWizard : Bool) (f : Field) (p : Prompt) (values : Values)
    (said : Transcript) (lines : List String) (e : Except WalkFailure Flow × Session) : Prop :=
  ∃ refused rest, lines = refused ++ rest ∧
    (∀ line ∈ refused, (complaint? inWizard f values line).isSome = true) ∧
    PromptEnds inWizard f values rest e.1 e.2.lines e.2.values ∧
    e.2.transcript = said ++ refused.flatMap (fun line =>
      Transcript.prompt verbose p ++ (complaint? inWizard f values line).getD []) ++
        Transcript.prompt verbose p

theorem prompted (verbose inWizard : Bool) (f : Field) (p : Prompt) (values : Values)
    (said : Transcript) (lines : List String) : Prompted verbose inWizard f p values said lines
      (promptFrom verbose inWizard f p values said lines) := by
  induction lines generalizing said with
  | nil => exact ⟨[], [], rfl, by simp, .inputEnded, by simp [promptFrom]⟩
  | cons line lines ih =>
    cases he : isExit line with
    | true =>
      refine ⟨[], line :: lines, rfl, by simp, ?_, by simp [promptFrom, he]⟩
      simpa [promptFrom, he] using .aborted he
    | false =>
      cases ht : turn inWizard f values line with
      | proceed values' =>
        refine ⟨[], line :: lines, rfl, by simp, ?_, by simp [promptFrom, he, ht]⟩
        simpa [promptFrom, he, ht] using .answered he ht
      | goBack =>
        refine ⟨[], line :: lines, rfl, by simp, ?_, by simp [promptFrom, he, ht]⟩
        simpa [promptFrom, he, ht] using .wentBack he ht
      | again more =>
        have hcomplaint : complaint? inWizard f values line = some more := by
          simp [complaint?, he, ht]
        have hagain : promptFrom verbose inWizard f p values said (line :: lines) =
            promptFrom verbose inWizard f p values (said ++ Transcript.prompt verbose p ++ more)
              lines := by
          simp [promptFrom, he, ht]
        obtain ⟨refused, rest, hlines, hrefused, hends, htold⟩ :=
          ih (said ++ Transcript.prompt verbose p ++ more)
        refine ⟨line :: refused, rest, by rw [hlines, List.cons_append], ?_, ?_, ?_⟩
        · exact List.forall_mem_cons.mpr ⟨by simp [hcomplaint], hrefused⟩
        · rw [hagain]
          exact hends
        · rw [hagain, htold]
          simp [hcomplaint]

variable {verbose inWizard : Bool} {f : Field} {s s' : Session} {values : Values}

theorem settles_say {said : Transcript} :
    Settles (say said) s fun _ s' => s'.lines = s.lines ∧ s'.values = s.values :=
  settles_modify ⟨rfl, rfl⟩

theorem settles_promptFrom {p : Prompt} {said : Transcript} {lines : List String} :
    Settles (fun _ => promptFrom verbose inWizard f p values said lines) s
      fun _ s' => s'.lines.length < lines.length := by
  obtain ⟨refused, rest, rfl, -, hends, -⟩ := prompted verbose inWizard f p values said lines
  unfold Settles
  generalize promptFrom verbose inWizard f p values said (refused ++ rest) = e at hends ⊢
  obtain ⟨outcome, lines', values', told⟩ := e
  cases hends with
  | inputEnded | aborted _ => simp
  | answered _ _ | wentBack _ _ =>
    simp only [List.length_append, List.length_cons]
    omega

/-- A hidden field is settled by its default, or else ends the walk. -/
theorem hidden_eq (f : Field) (s : Session) :
    hidden f s = match f.check ((f.defaulted s.values).get? f.name) with
      | some e => (.error (.hiddenField f.name e.message), { s with values := f.defaulted s.values })
      | none => (.ok .next, { s with values := f.defaulted s.values }) := by
  cases hd : f.defaultValue with
  | none =>
    simp only [hidden, Field.defaulted, hd, bind_eq, get_eq]
    cases f.check (s.values.get? f.name) <;> rfl
  | some v =>
    have hset : (if s.values.contains f.name then s
        else { s with values := s.values.insert f.name v }) =
          { s with values := f.defaulted s.values } := by
      simp only [Field.defaulted, hd]
      split <;> rfl
    simp only [hidden, hd, bind_eq, modify_eq, get_eq, hset]
    cases f.check ((f.defaulted s.values).get? f.name) <;> rfl

/-- All that a question can come to which is settled. -/
inductive Asked (f : Field) (s : Session) : Flow → Session → Prop
  | read {flow : Flow} {s' : Session} (h : s'.lines.length < s.lines.length) : Asked f s flow s'
  | hidden (hk : f.kind = .hidden) (hc : f.check ((f.defaulted s.values).get? f.name) = none) :
      Asked f s .next { s with values := f.defaulted s.values }

theorem settles_ask : Settles (ask verbose inWizard f) s (Asked f s) := by
  unfold ask
  split
  · rename_i hk
    unfold Settles
    rw [hidden_eq]
    cases hc : f.check ((f.defaulted s.values).get? f.name) with
    | none => exact .hidden hk hc
    | some e => simp
  · exact (settles_promptFrom (s := s)).mono fun _ s' h => .read h

theorem Asked.lines_le {flow : Flow} (h : Asked f s flow s') : s'.lines.length ≤ s.lines.length := by
  cases h with
  | read h => exact Nat.le_of_lt h
  | hidden _ _ => exact Nat.le_refl _

/-- All that a step can come to all of whose questions are settled. -/
inductive Stepped (fields : List Field) (s : Session) : Flow → Session → Prop
  | read {flow : Flow} {s' : Session} (h : s'.lines.length < s.lines.length) :
      Stepped fields s flow s'
  | silent {s' : Session} (hlines : s'.lines = s.lines)
      (hfields : ∀ f ∈ fields, f.kind = .hidden ∧ f.Filled s'.values)
      (hkept : ∀ name, s.values.contains name = true → s'.values.contains name = true) :
      Stepped fields s .next s'

theorem settles_askStep {fields : List Field} :
    Settles (askStep verbose fields) s (Stepped fields s) := by
  induction fields generalizing s with
  | nil =>
    refine settles_pure (.silent rfl ?_ fun _ h => h)
    intro f hf
    cases hf
  | cons f fields ih =>
    unfold askStep
    refine settles_ask.bind fun flow s₁ h₁ => ?_
    cases h₁ with
    | read h₁ =>
      cases flow with
      | back => exact settles_pure (.read h₁)
      | next =>
        refine (ih (s := s₁)).mono fun flow s₂ h₂ => .read ?_
        cases h₂ with
        | read h₂ => exact Nat.lt_trans h₂ h₁
        | silent hlines _ _ => exact hlines ▸ h₁
    | hidden hk hc =>
      refine ih.mono fun flow s₂ h₂ => ?_
      cases h₂ with
      | read h₂ => exact .read h₂
      | silent hlines hfields hkept =>
        refine .silent hlines (List.forall_mem_cons.mpr ⟨⟨hk, ?_⟩, hfields⟩) ?_
        · exact fun h => hkept _ (Field.filled_defaulted h)
        · exact fun name h => hkept _ (Field.contains_defaulted h)

theorem Stepped.lines_le {fields : List Field} {flow : Flow} (h : Stepped fields s flow s') :
    s'.lines.length ≤ s.lines.length := by
  cases h with
  | read h => exact Nat.le_of_lt h
  | silent hlines _ _ => exact Nat.le_of_eq (congrArg List.length hlines)

/-- Hidden fields that are filled are only checked. -/
theorem settles_askStep_of_filled {fields : List Field}
    (h : ∀ f ∈ fields, f.kind = .hidden ∧ f.Filled s.values) :
    Settles (askStep verbose fields) s fun _ _ => (validate fields s.values).valid = true := by
  have hchecks : Settles (askStep verbose fields) s fun _ _ =>
      ∀ f ∈ fields, f.check (s.values.get? f.name) = none := by
    induction fields with
    | nil => exact settles_pure fun f hf => by cases hf
    | cons f fields ih =>
      obtain ⟨⟨hk, hf⟩, hfields⟩ := List.forall_mem_cons.mp h
      unfold askStep ask
      rw [if_pos hk]
      have hhidden : Settles (hidden f) s fun flow s' =>
          flow = .next ∧ s' = s ∧ f.check (s.values.get? f.name) = none := by
        unfold Settles
        rw [hidden_eq, Field.Filled.defaulted_eq hf]
        cases f.check (s.values.get? f.name) <;> simp
      refine hhidden.bind ?_
      rintro _ _ ⟨rfl, rfl, hc⟩
      exact (ih hfields).mono fun _ _ hs => List.forall_mem_cons.mpr ⟨hc, hs⟩
  refine hchecks.mono fun _ _ hs => valid_validate_iff.mpr ?_
  intro f hf
  exact Field.check_eq_none_iff.mp (hs f hf)

section Wizard

variable {w : WizardSection} {fuel : Nat} {state : WizardState}

/-- One turn of a wizard: its step is shown and asked for, and then it is taken back or, if it can
be, on. -/
def visit (verbose : Bool) (w : WizardSection) (state : WizardState) :
    Walk (Option WizardState) := do
  match w.stepAt? state with
  | none => return none
  | some step =>
    let (position, total) := w.progress state
    say (Transcript.step position total step)
    match ← askStep verbose step.fields with
    | .back => return some state.back
    | .next =>
      match w.next (← get).values state with
      | .ok state => return some state
      | .error (.invalid errors) =>
        say (Transcript.fieldErrors errors)
        return some state
      | .error .completed => return none

/-- A wizard takes turns for as long as it stands at a step. -/
theorem steps_succ : steps verbose w (fuel + 1) state =
    visit verbose w state >>= fun next => next.elim (pure ()) (steps verbose w fuel) := by
  simp only [steps, visit]
  cases w.stepAt? state with
  | none => rfl
  | some step =>
    simp only [bind_assoc]
    congr 1
    funext _
    congr 1
    funext flow
    cases flow with
    | back => rfl
    | next =>
      simp only [bind_assoc]
      congr 1
      funext now
      cases w.next now.values state with
      | ok state => rfl
      | error e =>
        cases e with
        | invalid errors => simp only [bind_assoc, pure_bind, Option.elim]
        | completed => rfl

/-- The values are refused at a step that would not ask for any other. -/
def Stuck (w : WizardSection) (state : WizardState) (values : Values) : Prop :=
  ∃ step, w.stepAt? state = some step ∧ (∀ f ∈ step.fields, f.kind = .hidden ∧ f.Filled values) ∧
    (validate step.fields values).valid = false

/-- All that a turn can come to which does not end the walk. -/
inductive Visited (w : WizardSection) (state : WizardState) (s : Session) :
    Option WizardState → Session → Prop
  | read {state' : WizardState} {s' : Session} (h : s'.lines.length < s.lines.length)
      (hback : w.position state ≤ w.position state' + 1) : Visited w state s (some state') s'
  | advance {state' : WizardState} {s' : Session} (hlines : s'.lines = s.lines)
      (hi : w.position state < w.steps.length)
      (h : w.position state' = w.position state + 1) : Visited w state s (some state') s'
  | stuck {s' : Session} (hlines : s'.lines = s.lines) (h : Stuck w state s'.values) :
      Visited w state s (some state) s'
  | done (h : w.stepAt? state = none) : Visited w state s none s

/-- From one line to the next a wizard goes back by one step at most, and where nothing is read it
is taken on, or is stuck. -/
theorem settles_visit : Settles (visit verbose w state) s (Visited w state s) := by
  cases hat : w.stepAt? state with
  | none =>
    simp only [visit, hat]
    exact settles_pure (.done hat)
  | some step =>
    obtain ⟨i, rfl, hstep⟩ := WizardSection.stepAt?_eq_some_iff.mp hat
    obtain ⟨hi, -⟩ := List.getElem?_eq_some_iff.mp hstep
    have hposition : w.position (.step i) = i := rfl
    simp only [visit, hat]
    refine settles_say.bind fun _ s₁ h₁ => ?_
    refine settles_askStep.bind fun flow s₂ h₂ => ?_
    cases flow with
    | back =>
      cases h₂ with
      | read h₂ =>
        rw [h₁.1] at h₂
        refine settles_pure (.read h₂ ?_)
        cases i <;> simp [WizardState.back, WizardSection.position]
    | next =>
      refine settles_get.bind fun now s₃ h₃ => ?_
      obtain ⟨rfl, rfl⟩ := h₃
      cases hvalid : (validate step.fields s₃.values).valid with
      | true =>
        have hafter : w.position (w.after i) = i + 1 := WizardSection.position_after hi
        simp only [WizardSection.next_of_valid hstep hvalid]
        cases h₂ with
        | read h₂ =>
          rw [h₁.1] at h₂
          exact settles_pure (.read h₂ (by omega))
        | silent hlines _ _ => exact settles_pure (.advance (hlines.trans h₁.1) hi hafter)
      | false =>
        simp only [WizardSection.next_of_invalid hstep hvalid]
        refine settles_say.bind fun _ s₄ h₄ => ?_
        cases h₂ with
        | read h₂ =>
          rw [h₁.1, ← h₄.1] at h₂
          exact settles_pure (.read h₂ (Nat.le_succ _))
        | silent hlines hfields _ =>
          rw [← h₄.2] at hfields hvalid
          exact settles_pure (.stuck (h₄.1.trans (hlines.trans h₁.1)) ⟨step, hat, hfields, hvalid⟩)

/-- The hidden fields of a step that is stuck are only checked, and one of them is refused. -/
theorem Stuck.settles_visit {Q : Option WizardState → Session → Prop}
    (h : Stuck w state s.values) : Settles (visit verbose w state) s Q := by
  obtain ⟨step, hat, hfields, hinvalid⟩ := h
  simp only [visit, hat]
  refine settles_say.bind fun _ s₁ h₁ => ?_
  refine (settles_askStep_of_filled (h₁.2 ▸ hfields)).bind fun flow s₂ h₂ => ?_
  rw [h₁.2, hinvalid] at h₂
  cases h₂

theorem settles_steps
    (hfuel : w.steps.length - w.position state + 2 * s.lines.length + 2 ≤ fuel) :
    Settles (steps verbose w fuel state) s fun _ _ => True := by
  induction fuel generalizing state s with
  | zero => omega
  | succ fuel ih =>
    rw [steps_succ]
    refine settles_visit.bind fun next s' h => ?_
    cases h with
    | read h hback => exact ih (by omega)
    | advance hlines hi h =>
      rw [← hlines] at hfuel
      exact ih (by omega)
    | stuck hlines h =>
      obtain ⟨fuel, rfl⟩ : ∃ n, fuel = n + 1 := ⟨fuel - 1, by omega⟩
      change Settles (steps verbose w (fuel + 1) state) s' _
      rw [steps_succ]
      exact h.settles_visit.bind (Q := fun _ _ => False) fun _ _ hs => hs.elim
    | done h => exact settles_pure trivial

/-- A walk through the steps that ends is the same with more fuel. -/
theorem approximates_steps {fuel' : Nat} (h : fuel ≤ fuel') :
    Approximates (steps verbose w fuel state) (steps verbose w fuel' state) := by
  induction fuel generalizing fuel' state with
  | zero => exact approximates_endless _
  | succ fuel ih =>
    obtain ⟨fuel', rfl⟩ : ∃ n, fuel' = n + 1 := ⟨fuel' - 1, by omega⟩
    rw [steps_succ, steps_succ]
    refine (Approximates.refl _).bind fun next => ?_
    cases next with
    | none => exact .refl _
    | some state => exact ih (by omega)

theorem settles_wizard : Settles (wizard verbose w) s fun _ _ => True := by
  refine settles_get.bind ?_
  rintro _ s ⟨rfl, rfl⟩
  refine settles_steps ?_
  have hfuel : wizardFuel w s.lines = 2 * (s.lines.length + 2) * w.steps.length +
      2 * (s.lines.length + 2) := by
    rw [wizardFuel, Nat.mul_add_one]
  have hsteps : w.steps.length ≤ 2 * (s.lines.length + 2) * w.steps.length :=
    Nat.le_mul_of_pos_left _ (by omega)
  omega

/-- No longer walk through the steps of a wizard would come to anything else. -/
theorem steps_eq_wizard (h : wizardFuel w s.lines ≤ fuel) :
    steps verbose w fuel w.initial s = wizard verbose w s :=
  approximates_steps h s settles_wizard.ne_endless

end Wizard

theorem settles_collect {fields : List Field} :
    Settles (collect verbose fields) s fun _ _ => True := by
  refine settles_forM (I := fun _ => True) (fun f _ s _ => ?_) trivial
  refine settles_get.bind ?_
  rintro _ s ⟨rfl, rfl⟩
  split
  · exact (settles_discard settles_ask).mono fun _ _ _ => trivial
  · exact settles_pure trivial

theorem settles_showEvaluated {d : Document} {index : Nat} :
    Settles (showEvaluated verbose d index) s fun _ _ => True := by
  refine settles_get.bind ?_
  rintro _ s ⟨rfl, rfl⟩
  cases d.evaluate (d.environment s.values) with
  | error e => exact settles_throw fun h => by cases h
  | ok views => exact settles_say.mono fun _ _ _ => trivial

theorem settles_part {d : Document} {index : Nat} (piece : Section) :
    Settles (part verbose d index piece) s fun _ _ => True := by
  cases piece with
  | text _ => exact settles_say.mono fun _ _ _ => trivial
  | form _ => exact settles_say.bind fun _ _ _ => settles_collect
  | calculator _ => exact settles_collect.bind fun _ _ _ => settles_showEvaluated
  | wizard _ => exact settles_say.bind fun _ _ _ => settles_wizard
  | result _ => exact settles_showEvaluated

/-- A walk through a document ends, whatever is typed. -/
theorem settles_run {d : Document} : Settles (run verbose d) s fun _ _ => True :=
  settles_say.bind fun _ _ _ =>
    settles_forM (I := fun _ => True) (fun p _ _ _ => settles_part p.1) trivial

end Walk

end AppDef
