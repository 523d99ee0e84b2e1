import AppDef.Proofs.Engine.Step

namespace AppDef

/-- No other response reads like an acceptance. -/
theorem SubmitResponse.eq_accepted_of_print {r : SubmitResponse}
    (h : r.toJson.print = (SubmitResponse.accepted true).toJson.print) : r = .accepted true := by
  have hquoted : Json.quoted "accepted" = "\"accepted\"" := rfl
  have hchars := congrArg String.toList h
  cases r with
  | rejected flag errors =>
    have htrue : toString true = "true" := rfl
    have hfalse : toString false = "false" := rfl
    cases flag <;>
      simp [toJson, Json.print, Json.printMembers, hquoted, htrue, hfalse] at hchars
  | accepted flag =>
    cases flag with
    | true => rfl
    | false => exact absurd h (by decide)
  | failed message =>
    have herror : Json.quoted "error" = "\"error\"" := rfl
    simp [toJson, Json.print, Json.printMembers, hquoted, herror] at hchars

namespace Operation

/-- The operation submits, and the reply tells that it was accepted. -/
def accepts : Operation → Reply → Bool
  | .submit _, .report outcome | .submitTo _ _, .report outcome => outcome.isOk
  | .submitRequest _, .submitted response => response.isAccepted
  | .submitText _, .body text => text == (SubmitResponse.accepted true).toJson.print
  | _, _ => false

end Operation

namespace Engine

variable {e : Engine} {s : EngineState} {op : Operation} {d : Document} {values : Values}
  {t : Except SubmitError (Document × Values)}

theorem respond_eq_accepted_iff {outcome : Except SubmitError SubmissionReport} :
    respond outcome = .accepted true ↔ ∃ report, outcome = .ok report := by
  cases outcome with
  | ok report => exact ⟨fun _ => ⟨report, rfl⟩, fun _ => rfl⟩
  | error fault => cases fault <;> simp [respond]

theorem print_respond_iff {outcome : Except SubmitError SubmissionReport} :
    (respond outcome).toJson.print = (SubmitResponse.accepted true).toJson.print ↔
      ∃ report, outcome = .ok report :=
  ⟨fun h => respond_eq_accepted_iff.mp (SubmitResponse.eq_accepted_of_print h),
    fun h => congrArg (·.toJson.print) (respond_eq_accepted_iff.mpr h)⟩

theorem errorBody_ne_accepted (message : String) :
    errorBody message ≠ (SubmitResponse.accepted true).toJson.print := by
  intro he
  have h : SubmitResponse.failed message = .accepted true := SubmitResponse.eq_accepted_of_print he
  cases h

theorem accepts_answer (h : e.target? s op = some t)
    {outcome : Except SubmitError SubmissionReport} :
    op.accepts (op.answer outcome) = true ↔ ∃ report, outcome = .ok report := by
  cases op with
  | insert _ _ | load _ | draft _ | generateRequest _ | generateText _ | catalog => cases h
  | submit _ | submitTo _ _ =>
    cases outcome <;> simp [Operation.accepts, Operation.answer, Except.isOk, Except.toBool]
  | submitRequest _ =>
    simp [Operation.accepts, Operation.answer, SubmitResponse.isAccepted, respond_eq_accepted_iff]
  | submitText _ => simp [Operation.accepts, Operation.answer, print_respond_iff]

theorem not_accepts_error (h : e.target? s op = some t) (fault : SubmitError) :
    op.accepts (op.answer (.error fault)) = false := by
  rw [← Bool.not_eq_true, accepts_answer h]
  rintro ⟨report, hr⟩
  cases hr

theorem not_accepts_of_no_target (h : e.target? s op = none) :
    op.accepts (e.step s op).1 = false := by
  cases op with
  | insert _ _ | load _ | draft _ | generateRequest _ | generateText _ | catalog => rfl
  | submit _ | submitRequest _ | submitTo _ _ => cases h
  | submitText body =>
    obtain ⟨message, hr⟩ := read_of_no_target h
    have hne : errorBody ("invalid request: " ++ message) ≠
        (SubmitResponse.accepted true).toJson.print := errorBody_ne_accepted _
    simp [step, submitText, hr, Operation.accepts, hne]

/-- The document and the values that an operation submits, if it finds its document. -/
def submission? (e : Engine) (s : EngineState) (op : Operation) : Option (Document × Values) :=
  (e.target? s op).bind Except.toOption

/-- What an operation submits, if its reply tells that it was accepted. -/
def acceptedBy (e : Engine) (s : EngineState) (op : Operation) : List (Document × Values) :=
  if op.accepts (e.step s op).1 then (e.submission? s op).toList else []

theorem acceptedBy_of_passed (h : e.target? s op = some (.ok (d, values)))
    (hp : ∀ f ∈ d.fields, ¬ f.Fails values) : e.acceptedBy s op = [(d, values)] := by
  have ha : op.accepts (e.step s op).1 = true := by
    rw [step_of_passed h hp]
    exact (accepts_answer h).mpr ⟨_, rfl⟩
  simp [acceptedBy, submission?, ha, h, Except.toOption]

theorem acceptedBy_of_not_accepts (h : op.accepts (e.step s op).1 = false) :
    e.acceptedBy s op = [] := by
  simp [acceptedBy, h]

/-- Accepted is exactly what finds its document and passes the check of its fields. -/
theorem accepts_step_iff :
    op.accepts (e.step s op).1 = true ↔
      ∃ d values, e.submission? s op = some (d, values) ∧ ∀ f ∈ d.fields, ¬ f.Fails values := by
  cases e.case s op with
  | other h => simp [not_accepts_of_no_target h, submission?, h]
  | missed fault h =>
    rw [step_of_missed h, not_accepts_error h]
    simp [submission?, h, Except.toOption]
  | refused d values h f hf hv =>
    have hs : e.submission? s op = some (d, values) := by simp [submission?, h, Except.toOption]
    rw [step_of_refused h hf hv, not_accepts_error h, hs]
    constructor
    · intro ha
      cases ha
    · rintro ⟨_, _, hd, hp⟩
      cases hd
      exact absurd hv (hp f hf)
  | passed d values h hp =>
    have hs : e.submission? s op = some (d, values) := by simp [submission?, h, Except.toOption]
    rw [step_of_passed h hp, accepts_answer h]
    exact ⟨fun _ => ⟨d, values, hs, hp⟩, fun _ => ⟨_, rfl⟩⟩

theorem state_of_error {fault : SubmitError} (h : e.target? s op = some t)
    (hs : e.step s op = (op.answer (.error fault), s)) :
    (e.step s op).2 = {
      store := op.stored s.store
      calls := s.calls ++ (e.acceptedBy s op).flatMap fun p => p.1.effects e.config p.2
      prompts := s.prompts ++ op.input?.toList.flatMap promptsFor } := by
  have ha : op.accepts (e.step s op).1 = false := by
    rw [hs]
    exact not_accepts_error h fault
  obtain ⟨hstored, hinput⟩ := quiet_of_target h s.store
  rw [acceptedBy_of_not_accepts ha, hs, hstored, hinput]
  simp

/-- An operation leaves behind what it inserts, the effects of what is accepted of it, and the
prompt for its input. -/
theorem step_state (e : Engine) (s : EngineState) (op : Operation) :
    (e.step s op).2 = {
      store := op.stored s.store
      calls := s.calls ++ (e.acceptedBy s op).flatMap fun p => p.1.effects e.config p.2
      prompts := s.prompts ++ op.input?.toList.flatMap promptsFor } := by
  cases e.case s op with
  | other h =>
    rw [step_of_no_target h, acceptedBy_of_not_accepts (not_accepts_of_no_target h)]
    simp
  | missed fault h => exact state_of_error h (step_of_missed h)
  | refused d values h f hf hv => exact state_of_error h (step_of_refused h hf hv)
  | passed d values h hp =>
    obtain ⟨hstored, hinput⟩ := quiet_of_target h s.store
    rw [acceptedBy_of_passed h hp, step_of_passed h hp, hstored, hinput]
    simp

/-- The state behind operations in order. -/
def final (e : Engine) (s : EngineState) (ops : List Operation) : EngineState :=
  ((e.run s ops).getLast?.map (·.2)).getD s

/-- What was submitted and accepted, in order. -/
def accepted (e : Engine) (s : EngineState) : List Operation → List (Document × Values)
  | [] => []
  | op :: ops => e.acceptedBy s op ++ e.accepted (e.step s op).2 ops

theorem final_cons (ops : List Operation) :
    e.final s (op :: ops) = e.final (e.step s op).2 ops := by
  simp only [final, run, List.getLast?_cons]
  cases (e.run (e.step s op).2 ops).getLast? <;> rfl

theorem final_state (e : Engine) (s : EngineState) (ops : List Operation) :
    e.final s ops = {
      store := ops.foldl Operation.stored s.store
      calls := s.calls ++ (e.accepted s ops).flatMap fun p => p.1.effects e.config p.2
      prompts := s.prompts ++ (ops.filterMap Operation.input?).flatMap promptsFor } := by
  induction ops generalizing s with
  | nil => simp [final, run, accepted]
  | cons op ops ih =>
    rw [final_cons, ih, step_state]
    cases hi : op.input? <;> simp [accepted, hi, step_state]

/-- An engine all of whose collaborators record what they are given. -/
def recorder (config : EngineConfig) (completion : Except CollaboratorError String) : Engine where
  config := config
  sinks := ⟨.recording, .recording, .recording⟩
  storeFault := none
  completion := completion

def contactOf (config : EngineConfig) (p : Document × Values) : Option Contact :=
  p.1.crm.map fun crm => Contact.build crm p.2 config.defaultSource

/-- A contact with an address is enrolled in the workflow that its document names, if that is
not blank. -/
def enrollmentOf (config : EngineConfig) (p : Document × Values) : Option Enrollment :=
  match p.1.crm.bind (·.workflowId), (contactOf config p).bind (·.email) with
  | some workflow, some email => if Text.allBlank workflow then none else some ⟨workflow, email⟩
  | _, _ => none

theorem enrollment?_eq (config : EngineConfig) (p : Document × Values) :
    p.1.enrollment? (p.1.contact? config p.2) = enrollmentOf config p := by
  simp only [Document.enrollment?, Document.contact?, enrollmentOf, contactOf]
  cases p.1.crm with
  | none => rfl
  | some crm =>
    cases hw : crm.workflowId with
    | none => simp [hw]
    | some workflow =>
      cases he : (Contact.build crm p.2 config.defaultSource).email with
      | none => simp [hw, he]
      | some email => cases hb : Text.allBlank workflow <;> simp [hw, he, hb, Option.filter]

theorem effects_eq (config : EngineConfig) (p : Document × Values) :
    p.1.effects config p.2 = (contactOf config p).toList.map .contact ++
      (enrollmentOf config p).toList.map .workflow ++
      [.analytics ⟨config.eventPrefix ++ p.1.identity.slug, p.2⟩] := by
  simp only [Document.effects, enrollment?_eq]
  rfl

theorem contact_effects (config : EngineConfig) (p : Document × Values) :
    (p.1.effects config p.2).filterMap Effect.contact? = (contactOf config p).toList := by
  rw [effects_eq]
  cases contactOf config p <;> cases enrollmentOf config p <;> rfl

theorem enrollment_effects (config : EngineConfig) (p : Document × Values) :
    (p.1.effects config p.2).filterMap Effect.enrollment? = (enrollmentOf config p).toList := by
  rw [effects_eq]
  cases contactOf config p <;> cases enrollmentOf config p <;> rfl

theorem event_effects (config : EngineConfig) (p : Document × Values) :
    (p.1.effects config p.2).filterMap Effect.event? =
      [⟨config.eventPrefix ++ p.1.identity.slug, p.2⟩] := by
  rw [effects_eq]
  cases contactOf config p <;> cases enrollmentOf config p <;> rfl

/-- What one collaborator is given for all submissions, if `due` is what it is given for one. -/
theorem filterMap_effects {α : Type} {config : EngineConfig} {view : Effect → Option α}
    {due : Document × Values → Option α}
    (h : ∀ p, (p.1.effects config p.2).filterMap view = (due p).toList)
    (accepted : List (Document × Values)) :
    (accepted.flatMap fun p => p.1.effects config p.2).filterMap view = accepted.filterMap due := by
  rw [List.filterMap_flatMap, List.filterMap_eq_flatMap_toList]
  simp only [h]

/-- What an engine has recorded, told by what it accepted and by the inputs it was given. -/
structure Recorded (e : Engine) (s : EngineState) (accepted : List (Document × Values))
    (inputs : List String) : Prop where
  events : e.events s = accepted.map fun p => ⟨e.config.eventPrefix ++ p.1.identity.slug, p.2⟩
  contacts : e.contacts s = accepted.filterMap (contactOf e.config)
  enrollments : e.enrollments s = accepted.filterMap (enrollmentOf e.config)
  prompts : s.prompts = (inputs.filter (!Text.allBlank ·)).map Draft.prompt

/-- What an operation leaves as it was. -/
structure Quiet (e : Engine) (s : EngineState) (op : Operation) : Prop where
  /-- Nobody is called for what is rejected or fails. -/
  calls : op.accepts (e.step s op).1 = false → (e.step s op).2.calls = s.calls
  prompts : (∀ input, op.input? = some input → Text.allBlank input = true) →
    (e.step s op).2.prompts = s.prompts
  store : (∀ status raw, op ≠ .insert status raw) → (e.step s op).2.store = s.store

theorem step_quiet (e : Engine) (s : EngineState) (op : Operation) : e.Quiet s op where
  calls h := by simp [step_state, acceptedBy, h]
  prompts h := by
    rw [step_state]
    cases hi : op.input? with
    | none => simp
    | some input => simp [promptsFor, h input hi]
  store h := by
    rw [step_state]
    cases op with
    | insert status raw => exact absurd rfl (h status raw)
    | _ => rfl

theorem flatMap_promptsFor (inputs : List String) :
    inputs.flatMap promptsFor = (inputs.filter (!Text.allBlank ·)).map Draft.prompt := by
  induction inputs with
  | nil => rfl
  | cons input inputs ih =>
    cases hb : Text.allBlank input <;> simp [promptsFor, hb, ih]

theorem final_recorded (config : EngineConfig) (completion : Except CollaboratorError String)
    (store : Store) (ops : List Operation) :
    (recorder config completion).Recorded ((recorder config completion).final ⟨store, [], []⟩ ops)
      ((recorder config completion).accepted ⟨store, [], []⟩ ops)
      (ops.filterMap Operation.input?) := by
  rw [final_state]
  generalize (recorder config completion).accepted ⟨store, [], []⟩ ops = accepted
  constructor
  · rw [← List.filterMap_eq_map']
    exact filterMap_effects (event_effects config) accepted
  · exact filterMap_effects (contact_effects config) accepted
  · exact filterMap_effects (enrollment_effects config) accepted
  · exact flatMap_promptsFor _

/-- Whatever is asked of an engine whose collaborators record: there is one event for each
submission accepted, in the order of their acceptance, with its contact and enrollment if it has
them, and one prompt for each input that is not blank. Accepted is what is found and passes its
check, all else calls nobody, and only insertions change what is stored. -/
theorem run_recorded_exactly (config : EngineConfig) (completion : Except CollaboratorError String)
    (store : Store) (ops : List Operation) :
    let e := recorder config completion
    let start : EngineState := ⟨store, [], []⟩
    e.Recorded (e.final start ops) (e.accepted start ops) (ops.filterMap Operation.input?) ∧
      (e.final start ops).store = ops.foldl Operation.stored store ∧
      ∀ s op, e.Quiet s op ∧ (op.accepts (e.step s op).1 = true ↔
        ∃ d values, e.submission? s op = some (d, values) ∧ ∀ f ∈ d.fields, ¬ f.Fails values) := by
  refine ⟨final_recorded config completion store ops, ?_, fun s op => ?_⟩
  · rw [final_state]
  · exact ⟨step_quiet _ s op, accepts_step_iff⟩

end Engine

end AppDef
