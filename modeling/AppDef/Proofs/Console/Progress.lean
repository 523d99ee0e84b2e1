import AppDef.Proofs.Console.Walk
import AppDef.Proofs.Evaluation

namespace AppDef

namespace Walk

variable {α β : Type} {verbose inWizard : Bool} {d : Document} {f : Field} {values values' : Values}
  {lines lines' : List String}

/-- A line is read, or the wizard stands one step further on. -/
def Progresses (w : WizardSection) (state : WizardState) (s : Session) (state' : WizardState)
    (s' : Session) : Prop :=
  s'.lines.length < s.lines.length ∨ w.position state' = w.position state + 1

/-- A wizard that is stuck does not turn once more. -/
theorem progresses_of_visits {w : WizardSection} {state₀ state₁ state₂ : WizardState}
    {s₀ s₁ s₂ : Session} (h₁ : visit verbose w state₀ s₀ = (.ok (some state₁), s₁))
    (h₂ : visit verbose w state₁ s₁ = (.ok (some state₂), s₂)) :
    Progresses w state₀ s₀ state₁ s₁ ∨ Progresses w state₁ s₁ state₂ s₂ := by
  cases settles_visit.of_eq_ok h₁ with
  | read h _ => exact .inl (.inl h)
  | advance _ _ h => exact .inl (.inr h)
  | stuck _ h => exact absurd (h.settles_visit.of_eq_ok (Q := fun _ _ => False) h₂) id

/-- The failures that a walk through a document can come to. -/
inductive FailsWith (d : Document) : WalkFailure → Prop
  | aborted : FailsWith d .aborted
  | inputEnded : FailsWith d .inputEnded
  | hiddenField {f : Field} {v? : Option Json} {e : FieldError} (hf : f ∈ d.fields)
      (hk : f.kind = .hidden) (h : f.check v? = some e) :
      FailsWith d (.hiddenField f.name e.message)
  | unrenderable {env : Environment} {e : RenderError} (h : d.evaluate env = .error e) :
      FailsWith d (.unrenderable e)
  | endless : FailsWith d .endless

/-- The walk ends well, or in a failure that a walk through the document can come to. -/
def FailsIn (d : Document) (x : Walk α) : Prop :=
  ∀ s failure s', x s = (.error failure, s') → FailsWith d failure

theorem FailsIn.bind {x : Walk α} {g : α → Walk β} (h : FailsIn d x)
    (hg : ∀ a, FailsIn d (g a)) : FailsIn d (x >>= g) := by
  intro s failure s' hs
  rw [bind_eq] at hs
  rcases hx : x s with ⟨outcome, s₁⟩
  rw [hx] at hs
  cases outcome with
  | ok a => exact hg a s₁ failure s' hs
  | error e =>
    cases hs
    exact h s failure s' hx

theorem failsIn_pure (a : α) : FailsIn d (pure a) := by
  intro s failure s' h
  cases h

theorem failsIn_get : FailsIn d get := by
  intro s failure s' h
  cases h

theorem failsIn_say {said : Transcript} : FailsIn d (say said) := by
  intro s failure s' h
  cases h

theorem failsIn_throw {failure : WalkFailure} (h : FailsWith d failure) :
    FailsIn d (throw failure : Walk α) := by
  intro s e s' hs
  cases hs
  exact h

theorem failsIn_discard {x : Walk α} (h : FailsIn d x) : FailsIn d (discard x) := by
  rw [discard_eq]
  exact h.bind fun _ => failsIn_pure ()

theorem failsIn_forM {g : α → Walk Unit} {l : List α} (h : ∀ a ∈ l, FailsIn d (g a)) :
    FailsIn d (l.forM g) := by
  induction l with
  | nil => exact failsIn_pure ()
  | cons a l ih =>
    obtain ⟨ha, hl⟩ := List.forall_mem_cons.mp h
    exact ha.bind fun _ => ih hl

theorem PromptEnds.failsWith {outcome : Except WalkFailure Flow} {failure : WalkFailure}
    (h : PromptEnds inWizard f values lines outcome lines' values')
    (ho : outcome = .error failure) : FailsWith d failure := by
  cases h with
  | inputEnded =>
    cases ho
    exact .inputEnded
  | aborted _ =>
    cases ho
    exact .aborted
  | answered _ _ | wentBack _ _ => cases ho

theorem failsIn_ask (hf : f ∈ d.fields) : FailsIn d (ask verbose inWizard f) := by
  intro s failure s' h
  unfold ask at h
  split at h
  · rename_i hk
    rw [hidden_eq] at h
    split at h
    · rename_i e hc
      cases h
      exact .hiddenField hf hk hc
    · cases h
  · obtain ⟨_, _, _, _, hends, _⟩ := prompted verbose inWizard f
      (Prompt.ofField f (s.values.get? f.name)) s.values s.transcript s.lines
    exact hends.failsWith (congrArg Prod.fst h)

theorem failsIn_askStep {fields : List Field} (h : ∀ f ∈ fields, f ∈ d.fields) :
    FailsIn d (askStep verbose fields) := by
  induction fields with
  | nil => exact failsIn_pure Flow.next
  | cons f fields ih =>
    obtain ⟨hf, hfields⟩ := List.forall_mem_cons.mp h
    refine (failsIn_ask hf).bind fun flow => ?_
    cases flow with
    | next => exact ih hfields
    | back => exact failsIn_pure Flow.back

theorem failsIn_collect {fields : List Field} (h : ∀ f ∈ fields, f ∈ d.fields) :
    FailsIn d (collect verbose fields) := by
  refine failsIn_forM fun f hf => failsIn_get.bind fun s => ?_
  split
  · exact failsIn_discard (failsIn_ask (h f hf))
  · exact failsIn_pure ()

section Wizard

variable {w : WizardSection} {state : WizardState} {fuel : Nat}

theorem failsIn_visit (h : ∀ step ∈ w.steps, ∀ f ∈ step.fields, f ∈ d.fields) :
    FailsIn d (visit verbose w state) := by
  unfold visit
  cases hat : w.stepAt? state with
  | none => exact failsIn_pure none
  | some step =>
    have hstep : step ∈ w.steps := WizardSection.mem_of_stepAt? hat
    refine failsIn_say.bind fun _ => (failsIn_askStep (h step hstep)).bind fun flow => ?_
    cases flow with
    | back => exact failsIn_pure _
    | next =>
      refine failsIn_get.bind fun now => ?_
      cases w.next now.values state with
      | ok state => exact failsIn_pure _
      | error e =>
        cases e with
        | invalid errors => exact failsIn_say.bind fun _ => failsIn_pure _
        | completed => exact failsIn_pure _

theorem failsIn_steps (h : ∀ step ∈ w.steps, ∀ f ∈ step.fields, f ∈ d.fields) :
    FailsIn d (steps verbose w fuel state) := by
  induction fuel generalizing state with
  | zero => exact failsIn_throw .endless
  | succ fuel ih =>
    rw [steps_succ]
    refine (failsIn_visit h).bind fun next => ?_
    cases next with
    | none => exact failsIn_pure ()
    | some state => exact ih

end Wizard

theorem failsIn_showEvaluated {index : Nat} : FailsIn d (showEvaluated verbose d index) := by
  refine failsIn_get.bind fun s => ?_
  cases he : d.evaluate (d.environment s.values) with
  | error e => exact failsIn_throw (.unrenderable he)
  | ok views => exact failsIn_say

theorem failsIn_part {index : Nat} {piece : Section} (h : ∀ f ∈ piece.fields, f ∈ d.fields) :
    FailsIn d (part verbose d index piece) := by
  cases piece with
  | text _ => exact failsIn_say
  | form _ => exact failsIn_say.bind fun _ => failsIn_collect h
  | calculator _ => exact (failsIn_collect h).bind fun _ => failsIn_showEvaluated
  | wizard w =>
    have hsteps : ∀ step ∈ w.steps, ∀ f ∈ step.fields, f ∈ d.fields :=
      fun step hstep f hf => h f (List.mem_flatMap.mpr ⟨step, hstep, hf⟩)
    exact failsIn_say.bind fun _ => failsIn_get.bind fun _ => failsIn_steps hsteps
  | result _ => exact failsIn_showEvaluated

theorem failsIn_run : FailsIn d (run verbose d) := by
  refine failsIn_say.bind fun _ => failsIn_forM fun ⟨piece, i⟩ hpiece => failsIn_part fun f hf => ?_
  exact List.mem_flatMap.mpr ⟨piece, List.fst_mem_of_mem_zipIdx hpiece, hf⟩

/-- A walk through the document has returned: at its end, or with word of what stopped it. -/
inductive Returned (d : Document) : Except WalkFailure Unit → Prop
  | done : Returned d (.ok ())
  | aborted : Returned d (.error .aborted)
  | inputEnded : Returned d (.error .inputEnded)
  | hiddenField {f : Field} {v? : Option Json} {e : FieldError} (hf : f ∈ d.fields)
      (hk : f.kind = .hidden) (h : f.check v? = some e) :
      Returned d (.error (.hiddenField f.name e.message))

/-- Only a template that cannot be rendered keeps a walk from returning. -/
theorem returned_run (verbose : Bool) (d : Document) (s : Session) :
    Returned d (run verbose d s).1 ∨
      (run verbose d s).1 = .error (.unrenderable .tooManyPlaces) ∧ ¬ d.Renders := by
  have hends : (run verbose d s).1 ≠ .error .endless := settles_run.ne_endless
  rcases hrun : run verbose d s with ⟨outcome, s'⟩
  rw [hrun] at hends
  cases outcome with
  | ok _ => exact .inl .done
  | error failure =>
    cases failsIn_run s failure s' hrun with
    | aborted => exact .inl .aborted
    | inputEnded => exact .inl .inputEnded
    | hiddenField hf hk h => exact .inl (.hiddenField hf hk h)
    | endless => exact absurd rfl hends
    | @unrenderable env e h =>
      cases e
      refine .inr ⟨rfl, fun hd => ?_⟩
      obtain ⟨views, hviews⟩ : ∃ views, d.evaluate env = .ok views := evaluateFrom_of_renders hd
      rw [hviews] at h
      cases h

/-- A wizard takes one turn after another, and in one of any two turns that follow one another
without an end of the walk a line is read or a step is taken; so it ends, and with no more turns
than it is given here, whatever is typed. A prompt takes a line in each of its turns and fails at
the end of the lines. Therefore a walk through a document returns, unless one of the templates of
the document cannot be rendered. -/
theorem run_keeps_going_and_returns (verbose : Bool) :
    (∀ w state fuel, steps verbose w (fuel + 1) state =
      visit verbose w state >>= fun next => next.elim (pure ()) (steps verbose w fuel)) ∧
    (∀ w state₀ state₁ state₂ s₀ s₁ s₂,
      visit verbose w state₀ s₀ = (.ok (some state₁), s₁) →
      visit verbose w state₁ s₁ = (.ok (some state₂), s₂) →
      Progresses w state₀ s₀ state₁ s₁ ∨ Progresses w state₁ s₁ state₂ s₂) ∧
    (∀ w s fuel, wizardFuel w s.lines ≤ fuel →
      (steps verbose w fuel w.initial s).1 ≠ .error .endless ∧
      steps verbose w fuel w.initial s = wizard verbose w s) ∧
    (∀ inWizard f p values said lines, Prompted verbose inWizard f p values said lines
      (promptFrom verbose inWizard f p values said lines)) ∧
    ∀ d s, Returned d (run verbose d s).1 ∨
      (run verbose d s).1 = .error (.unrenderable .tooManyPlaces) ∧ ¬ d.Renders := by
  refine ⟨fun _ _ _ => steps_succ, ?_, ?_, prompted verbose, returned_run verbose⟩
  · intro w state₀ state₁ state₂ s₀ s₁ s₂ h₁ h₂
    exact progresses_of_visits h₁ h₂
  · intro w s fuel hfuel
    have hsame : steps verbose w fuel w.initial s = wizard verbose w s := steps_eq_wizard hfuel
    exact ⟨hsame ▸ settles_wizard.ne_endless, hsame⟩

/-- Two steps of hidden fields, which have defaults. -/
def campaign : WizardSection where
  heading := none
  steps := [
    ⟨"Source", none, [⟨"utm", "UTM", .hidden, none, true, [], some (.text "spring"), none, {}⟩]⟩,
    ⟨"Medium", none, [⟨"medium", "Medium", .hidden, none, true, [], some (.text "mail"), none, {}⟩]⟩]

theorem run_keeps_going_and_returns_campaign :
    (∃ s₁ s₂, visit false campaign (.step 0) ⟨[], {}, []⟩ = (.ok (some (.step 1)), s₁) ∧
      visit false campaign (.step 1) s₁ = (.ok (some .completed), s₂) ∧
      (Progresses campaign (.step 0) ⟨[], {}, []⟩ (.step 1) s₁ ∨
        Progresses campaign (.step 1) s₁ .completed s₂)) ∧
    wizardFuel campaign [] ≤ 12 ∧
      (steps false campaign 12 campaign.initial ⟨[], {}, []⟩).1 ≠ .error .endless := by
  obtain ⟨-, hturns, hends, -⟩ := run_keeps_going_and_returns false
  refine ⟨⟨_, _, rfl, rfl, ?_⟩, by decide, ?_⟩
  · exact hturns campaign (.step 0) (.step 1) .completed _ _ _ rfl rfl
  · exact (hends campaign ⟨[], {}, []⟩ 12 (by decide)).1

/-- A result that shows a number with more places than any number is shown with. -/
def overrun : Document where
  identity := ⟨"Long", "long", "Shows many places", none⟩
  sections := [.result ⟨none, "\x7b\x7bfixed 1 70000\x7d\x7d", none⟩]
  crm := none
  settings := none

theorem overrun_not_returned : ¬ Returned overrun (run false overrun ⟨[], {}, []⟩).1 := by
  have hrun : (run false overrun ⟨[], {}, []⟩).1 = .error (.unrenderable .tooManyPlaces) := by
    decide +kernel
  rw [hrun]
  intro h
  cases h

end Walk

end AppDef
