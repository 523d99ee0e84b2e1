import AppDef.Engine.Submission
import AppDef.Proofs.Validation

namespace AppDef

/-- A call that comes to an error: the collaborator gives it, never answers or breaks off. -/
inductive Sink.Fails {α : Type} (limit : Nat) (request : α) : Sink α → CollaboratorError → Prop
  | failing (e : CollaboratorError) : Fails limit request (.failing e) e
  | stalling : Fails limit request .stalling (.timedOut limit)
  | breaking (reason : α → Option String) :
      Fails limit request (.breaking reason) (.panicked ((reason request).getD "unknown panic"))

theorem Sink.call_eq_error_iff {α : Type} {limit : Nat} {sink : Sink α} {request : α}
    {e : CollaboratorError} : sink.call limit request = .error e ↔ sink.Fails limit request e := by
  constructor
  · intro h
    cases sink with
    | recording | passing => cases h
    | failing _ | stalling | breaking _ => cases h; constructor
  · intro h
    cases h <;> rfl

namespace Effect

/-- An effect comes to an error at the collaborator that takes it. -/
inductive Fails (limit : Nat) (sinks : Sinks) : Effect → CollaboratorError → Prop
  | contact {c e} : sinks.contacts.Fails limit c e → Fails limit sinks (.contact c) e
  | workflow {w e} : sinks.workflows.Fails limit w e → Fails limit sinks (.workflow w) e
  | analytics {v e} : sinks.events.Fails limit v e → Fails limit sinks (.analytics v) e

theorem run_eq_error_iff {limit : Nat} {sinks : Sinks} {effect : Effect} {e : CollaboratorError} :
    effect.run limit sinks = .error e ↔ effect.Fails limit sinks e := by
  cases effect <;> simp only [run, Sink.call_eq_error_iff]
  all_goals
    constructor
    · intro h
      constructor
      exact h
    · intro h
      cases h
      assumption

/-- The effects that values passing the check call for. -/
inductive Due (config : EngineConfig) (d : Document) (values : Values) : Effect → Prop
  | contact {crm} (hc : d.crm = some crm) :
      Due config d values (.contact (Contact.build crm values config.defaultSource))
  | workflow {crm id email} (hc : d.crm = some crm) (hid : crm.workflowId = some id)
      (hb : Text.allBlank id = false)
      (he : (Contact.build crm values config.defaultSource).email = some email) :
      Due config d values (.workflow ⟨id, email⟩)
  | analytics : Due config d values (.analytics ⟨config.eventPrefix ++ d.identity.slug, values⟩)

end Effect

namespace Document

variable {d : Document} {config : EngineConfig} {values : Values}

theorem enrollment?_eq_some_iff {w : Enrollment} :
    d.enrollment? (d.contact? config values) = some w ↔ ∃ crm, d.crm = some crm ∧
      crm.workflowId = some w.workflow ∧ Text.allBlank w.workflow = false ∧
      (Contact.build crm values config.defaultSource).email = some w.email := by
  obtain ⟨id, email⟩ := w
  cases hc : d.crm with
  | none => simp [enrollment?, hc]
  | some crm =>
    simp [enrollment?, contact?, hc, Option.bind_eq_some_iff, Option.filter_eq_some_iff]
    grind

theorem mem_effects_iff {effect : Effect} :
    effect ∈ d.effects config values ↔ effect.Due config d values := by
  constructor
  · intro h
    rcases List.mem_append.mp h with h | h
    · rcases List.mem_append.mp h with h | h
      · obtain ⟨c, hc, rfl⟩ := List.mem_map.mp h
        obtain ⟨crm, hcrm, rfl⟩ := Option.map_eq_some_iff.mp (Option.mem_toList.mp hc)
        exact .contact hcrm
      · obtain ⟨w, hw, rfl⟩ := List.mem_map.mp h
        obtain ⟨crm, hcrm, hid, hb, he⟩ := enrollment?_eq_some_iff.mp (Option.mem_toList.mp hw)
        exact .workflow hcrm hid hb he
    · exact List.mem_singleton.mp h ▸ .analytics
  · intro h
    cases h with
    | contact hc => simp [effects, contact?, hc]
    | workflow hc hid hb he =>
      rename_i crm id email
      have hw := enrollment?_eq_some_iff (w := ⟨id, email⟩).mpr ⟨crm, hc, hid, hb, he⟩
      simp [effects, hw]
    | analytics => exact List.mem_append_right _ (List.mem_singleton.mpr rfl)

/-- Each kind of effect is begun at most once, in the order of their names here. -/
theorem name_effects_sublist (d : Document) (config : EngineConfig) (values : Values) :
    ((d.effects config values).map Effect.name).Sublist ["contact", "workflow", "analytics"] := by
  unfold effects
  cases hc : d.contact? config values with
  | none => simp [enrollment?, Effect.name]
  | some c => cases he : d.enrollment? (some c) <;> simp [he, Effect.name]

end Document

namespace Submission

variable {config : EngineConfig} {sinks : Sinks} {d : Document} {values : Values}

theorem failure?_eq_some_iff {effect : Effect} {f : EffectFailure} :
    failure? config sinks effect = some f ↔
      ∃ e, effect.Fails config.timeout sinks e ∧ f = ⟨effect.name, e.message⟩ := by
  simp only [failure?, ← Effect.run_eq_error_iff]
  cases effect.run config.timeout sinks with
  | ok u => simp
  | error e => simp [eq_comm]

theorem effect_of_failure? {effect : Effect} {f : EffectFailure}
    (h : failure? config sinks effect = some f) : f.effect = effect.name := by
  obtain ⟨e, _, rfl⟩ := failure?_eq_some_iff.mp h
  rfl

theorem failures_sublist (effects : List Effect) :
    ((effects.filterMap (failure? config sinks)).map (·.effect)).Sublist
      (effects.map Effect.name) := by
  induction effects with
  | nil => exact .slnil
  | cons effect effects ih =>
    cases hf : failure? config sinks effect with
    | none => simpa [hf] using ih.cons _
    | some f => simpa [hf, effect_of_failure? hf] using ih

/-- What was done for an accepted submission, and what its report tells of it. -/
structure FannedOut (config : EngineConfig) (sinks : Sinks) (d : Document) (values : Values)
    (report : SubmissionReport) (calls : List Effect) : Prop where
  accepted : report.toJson.member? "accepted" = some (.bool true)
  contact : report.contact = d.crm.map fun crm => Contact.build crm values config.defaultSource
  /-- Nothing but what is due is called for, and nothing due is left out. -/
  called : ∀ effect, effect ∈ calls ↔ effect.Due config d values
  /-- At most one call of each kind, in this order. -/
  once : (calls.map Effect.name).Sublist ["contact", "workflow", "analytics"]
  failed : ∀ f, f ∈ report.failures ↔
    ∃ effect ∈ calls, ∃ e, effect.Fails config.timeout sinks e ∧ f = ⟨effect.name, e.message⟩
  /-- At most one failure of each call, in the order of the calls. -/
  failedOnce : (report.failures.map (·.effect)).Sublist (calls.map Effect.name)

theorem report_fannedOut (config : EngineConfig) (sinks : Sinks) (d : Document) (values : Values) :
    FannedOut config sinks d values (report config sinks d values) (d.effects config values) where
  accepted := rfl
  contact := rfl
  called _ := Document.mem_effects_iff
  once := d.name_effects_sublist config values
  failed f := by simp only [report, List.mem_filterMap, failure?_eq_some_iff]
  failedOnce := failures_sublist _

theorem submit_of_passes (h : ∀ f ∈ d.fields, ¬ f.Fails values) :
    submit config sinks d values =
      (.ok (report config sinks d values), d.effects config values) := by
  have hv : (d.validate values).valid = true := valid_validate_iff.mpr h
  simp only [submit, hv, ↓reduceIte]

theorem submit_of_fails {f : Field} (hf : f ∈ d.fields) (h : f.Fails values) :
    submit config sinks d values = (.error (.invalid (validate d.fields values)), []) := by
  have hv : (d.validate values).valid ≠ true := fun hv => valid_validate_iff.mp hv f hf h
  simp only [submit, hv, ↓reduceIte, Bool.false_eq_true]
  rfl

/-- The check is the only gate: it refuses exactly the values that some field refuses, with all
that is wrong with them and before any call, and all other values fan out to every effect due. -/
theorem submit_gate_and_fan_out (config : EngineConfig) (sinks : Sinks) (d : Document)
    (values : Values) :
    ((∃ found, (submit config sinks d values).1 = .error (.invalid found)) ↔
      ∃ f ∈ d.fields, f.Fails values) ∧
    match submit config sinks d values with
    | (.error e, calls) => ∃ found, e = .invalid found ∧ found.Accounts d.fields values ∧
        found.errors ≠ [] ∧ calls = []
    | (.ok report, calls) => FannedOut config sinks d values report calls := by
  by_cases hfails : ∃ f ∈ d.fields, f.Fails values
  · obtain ⟨f, hf, h⟩ := hfails
    have hfound : (validate d.fields values).errors ≠ [] := by
      intro he
      exact valid_validate_iff.mp (by simp [Validation.valid, he]) f hf h
    rw [submit_of_fails hf h]
    exact ⟨⟨fun _ => ⟨f, hf, h⟩, fun _ => ⟨_, rfl⟩⟩, _, rfl, validate_accounts _ _, hfound, rfl⟩
  · have hpasses : ∀ f ∈ d.fields, ¬ f.Fails values := by simpa using hfails
    rw [submit_of_passes hpasses]
    refine ⟨⟨?_, fun h => absurd h hfails⟩, report_fannedOut config sinks d values⟩
    rintro ⟨_, h⟩
    cases h

end Submission

end AppDef
