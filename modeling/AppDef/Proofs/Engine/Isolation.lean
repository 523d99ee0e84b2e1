import AppDef.Proofs.Engine.Step

namespace AppDef

/-- How the collaborators treat the next call. Each may go by the calls it was given before, so
it can take one and fail, stall at or break off the next. -/
structure Conduct where
  contacts : List Contact → Sink Contact
  workflows : List Enrollment → Sink Enrollment
  events : List ConversionEvent → Sink ConversionEvent

namespace Conduct

/-- The collaborators as they are after the given calls. -/
def sinks (c : Conduct) (calls : List Effect) : Sinks where
  contacts := c.contacts (calls.filterMap Effect.contact?)
  workflows := c.workflows (calls.filterMap Effect.enrollment?)
  events := c.events (calls.filterMap Effect.event?)

/-- Collaborators that treat every call alike. -/
def constant (sinks : Sinks) : Conduct where
  contacts _ := sinks.contacts
  workflows _ := sinks.workflows
  events _ := sinks.events

end Conduct

namespace Reply

/-- The reply without the failures that only an operator is told of. -/
def withoutFailures : Reply → Reply
  | .report (.ok told) => .report (.ok { told with failures := [] })
  | reply => reply

/-- The failures of one kind of effect that a reply tells of. -/
def failuresOf (effect : String) : Reply → List EffectFailure
  | .report (.ok told) => told.failures.filter (·.effect == effect)
  | _ => []

end Reply

/-- The operations that report to an operator. All others answer submitters and authors. -/
def Operation.reports : Operation → Bool
  | .submit _ | .submitTo _ _ => true
  | _ => false

namespace Engine

variable {e : Engine} {s : EngineState} {op : Operation} {k k₁ k₂ : Sinks}

/-- The engine with other collaborators. -/
def withSinks (e : Engine) (k : Sinks) : Engine :=
  { e with sinks := k }

/-- A run of the engine with collaborators whose conduct may change from call to call. As no
operation calls one of them twice, its conduct is fixed during each. -/
def runUnder (e : Engine) (c : Conduct) (s : EngineState) :
    List Operation → List (Reply × EngineState)
  | [] => []
  | op :: ops =>
    let (reply, s) := (e.withSinks (c.sinks s.calls)).step s op
    (reply, s) :: e.runUnder c s ops

theorem runUnder_cons (c : Conduct) (ops : List Operation) :
    e.runUnder c s (op :: ops) = (e.withSinks (c.sinks s.calls)).step s op ::
      e.runUnder c ((e.withSinks (c.sinks s.calls)).step s op).2 ops :=
  rfl

theorem runUnder_constant (e : Engine) (k : Sinks) (s : EngineState) (ops : List Operation) :
    e.runUnder (.constant k) s ops = (e.withSinks k).run s ops := by
  induction ops generalizing s with
  | nil => rfl
  | cons op ops ih =>
    simp only [runUnder, run, ih]
    rfl

theorem target?_withSinks : (e.withSinks k).target? s op = e.target? s op := by
  cases op <;> rfl

theorem step_withSinks_of_no_target (h : e.target? s op = none) :
    (e.withSinks k).step s op = e.step s op := by
  cases op with
  | insert _ _ | load _ | draft _ | generateRequest _ | generateText _ | catalog => rfl
  | submit _ | submitRequest _ | submitTo _ _ => cases h
  | submitText body =>
    obtain ⟨message, hr⟩ := read_of_no_target h
    simp only [step, submitText, hr]

theorem failures_cons_of_ne {config : EngineConfig} {name : String} {effect : Effect}
    (hn : effect.name ≠ name) (effects : List Effect) :
    ((effect :: effects).filterMap (Submission.failure? config k)).filter (·.effect == name) =
      (effects.filterMap (Submission.failure? config k)).filter (·.effect == name) := by
  cases hf : Submission.failure? config k effect with
  | none => simp [hf]
  | some f => simp [hf, Submission.effect_of_failure? hf, hn]

/-- Collaborators that treat one kind of effect alike fail the same effects of that kind. -/
theorem failures_congr {config : EngineConfig} {name : String}
    (h : ∀ effect : Effect, effect.name = name →
      Submission.failure? config k₁ effect = Submission.failure? config k₂ effect)
    (effects : List Effect) :
    (effects.filterMap (Submission.failure? config k₁)).filter (·.effect == name) =
      (effects.filterMap (Submission.failure? config k₂)).filter (·.effect == name) := by
  induction effects with
  | nil => rfl
  | cons effect effects ih =>
    by_cases hn : effect.name = name
    · cases hf : Submission.failure? config k₂ effect with
      | none => simpa [h effect hn, hf] using ih
      | some f =>
        have he : f.effect = name := (Submission.effect_of_failure? hf).trans hn
        simpa [h effect hn, hf, he] using ih
    · rw [failures_cons_of_ne hn, failures_cons_of_ne hn, ih]

/-- What two engines with collaborators of their own have in common in one operation. -/
structure Alike (c₁ c₂ : Conduct) (op : Operation) (a b : Reply × EngineState) : Prop where
  shown : op.reports = false → a.1 = b.1
  told : a.1.withoutFailures = b.1.withoutFailures
  /-- The same was stored, asked of the generator and called for, in the same order. -/
  state : a.2 = b.2
  contacts : c₁.contacts = c₂.contacts → a.1.failuresOf "contact" = b.1.failuresOf "contact"
  workflows : c₁.workflows = c₂.workflows → a.1.failuresOf "workflow" = b.1.failuresOf "workflow"
  events : c₁.events = c₂.events → a.1.failuresOf "analytics" = b.1.failuresOf "analytics"

theorem Alike.refl {c₁ c₂ : Conduct} (a : Reply × EngineState) : Alike c₁ c₂ op a a :=
  ⟨fun _ => rfl, rfl, rfl, fun _ => rfl, fun _ => rfl, fun _ => rfl⟩

theorem failuresOf_answer_congr {d : Document} {config : EngineConfig} {values : Values}
    {name : String} (h : ∀ effect : Effect, effect.name = name →
      Submission.failure? config k₁ effect = Submission.failure? config k₂ effect) :
    (op.answer (.ok (Submission.report config k₁ d values))).failuresOf name =
      (op.answer (.ok (Submission.report config k₂ d values))).failuresOf name := by
  cases op with
  | submitRequest _ | submitText _ => rfl
  | _ => exact failures_congr h _

theorem answer_alike (c₁ c₂ : Conduct) (calls : List Effect) (s' : EngineState)
    {config : EngineConfig} {d : Document} {values : Values}
    {t : Except SubmitError (Document × Values)} (h : e.target? s op = some t) :
    Alike c₁ c₂ op (op.answer (.ok (Submission.report config (c₁.sinks calls) d values)), s')
      (op.answer (.ok (Submission.report config (c₂.sinks calls) d values)), s') where
  shown hop := by
    cases op with
    | submit _ | submitTo _ _ => cases hop
    | submitRequest _ | submitText _ => rfl
    | insert _ _ | load _ | draft _ | generateRequest _ | generateText _ | catalog => cases h
  told := by cases op <;> rfl
  state := rfl
  contacts hc := by
    refine failuresOf_answer_congr fun effect hn => ?_
    cases effect with
    | contact c => simp only [Submission.failure?, Effect.run, Conduct.sinks, hc]
    | workflow _ | analytics _ => simp [Effect.name] at hn
  workflows hc := by
    refine failuresOf_answer_congr fun effect hn => ?_
    cases effect with
    | workflow w => simp only [Submission.failure?, Effect.run, Conduct.sinks, hc]
    | contact _ | analytics _ => simp [Effect.name] at hn
  events hc := by
    refine failuresOf_answer_congr fun effect hn => ?_
    cases effect with
    | analytics v => simp only [Submission.failure?, Effect.run, Conduct.sinks, hc]
    | contact _ | workflow _ => simp [Effect.name] at hn

theorem step_alike (e : Engine) (c₁ c₂ : Conduct) (s : EngineState) (op : Operation) :
    Alike c₁ c₂ op ((e.withSinks (c₁.sinks s.calls)).step s op)
      ((e.withSinks (c₂.sinks s.calls)).step s op) := by
  cases e.case s op with
  | other h =>
    rw [step_withSinks_of_no_target h, step_withSinks_of_no_target h]
    exact .refl _
  | missed fault h =>
    rw [step_of_missed (target?_withSinks.trans h), step_of_missed (target?_withSinks.trans h)]
    exact .refl _
  | refused d values h f hf hv =>
    rw [step_of_refused (target?_withSinks.trans h) hf hv,
      step_of_refused (target?_withSinks.trans h) hf hv]
    exact .refl _
  | passed d values h hp =>
    rw [step_of_passed (target?_withSinks.trans h) hp,
      step_of_passed (target?_withSinks.trans h) hp]
    exact answer_alike c₁ c₂ s.calls _ h

/-- Two runs of the same operations that are alike at each. -/
inductive AlikeRuns (c₁ c₂ : Conduct) :
    List Operation → List (Reply × EngineState) → List (Reply × EngineState) → Prop
  | nil : AlikeRuns c₁ c₂ [] [] []
  | cons {op ops a b as bs} : Alike c₁ c₂ op a b → AlikeRuns c₁ c₂ ops as bs →
      AlikeRuns c₁ c₂ (op :: ops) (a :: as) (b :: bs)

/-- Two runs of an engine from one state are alike however their collaborators conduct themselves.
With collaborators that treat every call alike they are the runs of the engine itself. -/
theorem runs_alike_whatever_the_conduct (e : Engine) (s : EngineState) (ops : List Operation) :
    (∀ c₁ c₂ : Conduct, AlikeRuns c₁ c₂ ops (e.runUnder c₁ s ops) (e.runUnder c₂ s ops)) ∧
      ∀ k : Sinks, e.runUnder (.constant k) s ops = (e.withSinks k).run s ops := by
  refine ⟨fun c₁ c₂ => ?_, fun k => runUnder_constant e k s ops⟩
  induction ops generalizing s with
  | nil => exact .nil
  | cons op ops ih =>
    have hstep := step_alike e c₁ c₂ s op
    rw [runUnder_cons, runUnder_cons, hstep.state]
    exact .cons hstep (ih _)

end Engine

end AppDef
