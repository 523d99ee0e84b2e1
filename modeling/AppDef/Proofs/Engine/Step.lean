import AppDef.Engine.Basic
import AppDef.Proofs.Outcome
import AppDef.Proofs.Submission

namespace AppDef

namespace Operation

/-- What is stored behind an operation. -/
def stored (store : Store) : Operation → Store
  | .insert status raw => store.insert status raw
  | _ => store

/-- The input of a request for a draft. A body that is no such request has none. -/
def input? : Operation → Option String
  | .draft request => some request
  | .generateRequest request => some request.input
  | .generateText body => (GenerateRequest.read body).toOption.map (·.input)
  | _ => none

/-- What a submission comes to, in the form that its operation replies with. -/
def answer (outcome : Except SubmitError SubmissionReport) : Operation → Reply
  | .submitRequest _ => .submitted (Engine.respond outcome)
  | .submitText _ => .body (Engine.respond outcome).toJson.print
  | _ => .report outcome

end Operation

namespace Engine

variable {e : Engine} {s : EngineState} {op : Operation} {d : Document} {values : Values}
  {t : Except SubmitError (Document × Values)}

/-- What the generator is prompted with for an input. A blank one does not reach it. -/
def promptsFor (input : String) : List String :=
  if Text.allBlank input then [] else [Draft.prompt input]

theorem draft_state (request : String) :
    (e.draft s request).2 = { s with prompts := s.prompts ++ promptsFor request } := by
  unfold draft promptsFor
  split
  · simp
  · cases e.completion <;> rfl

theorem generateRequest_state (request : GenerateRequest) :
    (e.generateRequest s request).2 = (e.draft s request.input).2 := by
  unfold generateRequest
  rcases e.draft s request.input with ⟨outcome, s'⟩
  cases outcome <;> rfl

/-- What a request submits: the document published under its slug and its values. -/
def found (e : Engine) (s : EngineState) (request : SubmitRequest) :
    Except SubmitError (Document × Values) :=
  (e.load s request.slug).map (·, request.values)

/-- What an operation submits, or why it cannot. Other operations and bodies that are no requests
submit nothing. -/
def target? (e : Engine) (s : EngineState) :
    Operation → Option (Except SubmitError (Document × Values))
  | .submit request | .submitRequest request => some (e.found s request)
  | .submitText body => (SubmitRequest.read body).toOption.map (e.found s)
  | .submitTo d values => some (.ok (d, values))
  | _ => none

theorem submit_of_found {request : SubmitRequest} (h : e.found s request = .ok (d, values)) :
    e.submit s request = e.submitTo s d values := by
  obtain ⟨d', hl, hd⟩ := except_map_eq_ok.mp h
  cases hd
  simp only [submit, hl]

theorem submit_of_missed {request : SubmitRequest} {fault : SubmitError}
    (h : e.found s request = .error fault) : e.submit s request = (.error fault, s) := by
  cases hl : e.load s request.slug with
  | ok d =>
    rw [found, hl] at h
    cases h
  | error fault' =>
    rw [found, hl] at h
    cases h
    simp only [submit, hl]

theorem target?_submitText {body : String} (h : e.target? s (.submitText body) = some t) :
    ∃ request, SubmitRequest.read body = .ok request ∧ e.found s request = t := by
  cases hr : SubmitRequest.read body with
  | error message => simp [target?, hr, Except.toOption] at h
  | ok request => exact ⟨request, rfl, by simpa [target?, hr, Except.toOption] using h⟩

/-- All that an operation can be. Which of these it is does not hang on the collaborators. -/
inductive Case (e : Engine) (s : EngineState) (op : Operation) : Prop
  | other (h : e.target? s op = none)
  | missed (fault : SubmitError) (h : e.target? s op = some (.error fault))
  | refused (d : Document) (values : Values) (h : e.target? s op = some (.ok (d, values)))
      (f : Field) (hf : f ∈ d.fields) (hv : f.Fails values)
  | passed (d : Document) (values : Values) (h : e.target? s op = some (.ok (d, values)))
      (hp : ∀ f ∈ d.fields, ¬ f.Fails values)

theorem case (e : Engine) (s : EngineState) (op : Operation) : e.Case s op := by
  cases h : e.target? s op with
  | none => exact .other h
  | some t =>
    cases t with
    | error fault => exact .missed fault h
    | ok p =>
      by_cases hf : ∃ f ∈ p.1.fields, f.Fails p.2
      · obtain ⟨f, hf, hv⟩ := hf
        exact .refused p.1 p.2 h f hf hv
      · exact .passed p.1 p.2 h (by simpa using hf)

theorem step_of_found (h : e.target? s op = some (.ok (d, values))) :
    e.step s op = (op.answer (Submission.submit e.config e.sinks d values).1,
      { s with calls := s.calls ++ (Submission.submit e.config e.sinks d values).2 }) := by
  cases op with
  | insert _ _ | load _ | draft _ | generateRequest _ | generateText _ | catalog => cases h
  | submitTo _ _ => cases h; rfl
  | submit request =>
    simp only [step, submit_of_found (Option.some.inj h)]
    rfl
  | submitRequest request =>
    simp only [step, submitRequest, submit_of_found (Option.some.inj h)]
    rfl
  | submitText body =>
    obtain ⟨request, hr, hf⟩ := target?_submitText h
    simp only [step, submitText, hr, submitRequest, submit_of_found hf]
    rfl

theorem step_of_passed (h : e.target? s op = some (.ok (d, values)))
    (hp : ∀ f ∈ d.fields, ¬ f.Fails values) :
    e.step s op = (op.answer (.ok (Submission.report e.config e.sinks d values)),
      { s with calls := s.calls ++ d.effects e.config values }) := by
  rw [step_of_found h, Submission.submit_of_passes hp]

theorem step_of_refused (h : e.target? s op = some (.ok (d, values))) {f : Field}
    (hf : f ∈ d.fields) (hv : f.Fails values) :
    e.step s op = (op.answer (.error (.invalid (validate d.fields values))), s) := by
  rw [step_of_found h, Submission.submit_of_fails hf hv, List.append_nil]

theorem step_of_missed {fault : SubmitError} (h : e.target? s op = some (.error fault)) :
    e.step s op = (op.answer (.error fault), s) := by
  cases op with
  | insert _ _ | load _ | draft _ | generateRequest _ | generateText _ | catalog => cases h
  | submitTo _ _ => cases h
  | submit request =>
    simp only [step, submit_of_missed (Option.some.inj h)]
    rfl
  | submitRequest request =>
    simp only [step, submitRequest, submit_of_missed (Option.some.inj h)]
    rfl
  | submitText body =>
    obtain ⟨request, hr, hf⟩ := target?_submitText h
    simp only [step, submitText, hr, submitRequest, submit_of_missed hf]
    rfl

theorem read_of_no_target {body : String} (h : e.target? s (.submitText body) = none) :
    ∃ message, SubmitRequest.read body = .error message := by
  cases hr : SubmitRequest.read body with
  | error message => exact ⟨message, rfl⟩
  | ok request => simp [target?, hr, Except.toOption] at h

theorem step_of_no_target (h : e.target? s op = none) :
    (e.step s op).2 = { s with
      store := op.stored s.store
      prompts := s.prompts ++ op.input?.toList.flatMap promptsFor } := by
  cases op with
  | insert _ _ | load _ | catalog => simp [step, insert, Operation.stored, Operation.input?]
  | submit _ | submitRequest _ | submitTo _ _ => cases h
  | submitText body =>
    obtain ⟨message, hr⟩ := read_of_no_target h
    simp [step, submitText, hr, Operation.stored, Operation.input?]
  | draft request => simp [step, draft_state, Operation.stored, Operation.input?]
  | generateRequest request =>
    simp [step, generateRequest_state, draft_state, Operation.stored, Operation.input?]
  | generateText body =>
    cases hr : GenerateRequest.read body with
    | error message =>
      simp [step, generateText, hr, Operation.stored, Operation.input?, Except.toOption]
    | ok request =>
      simp [step, generateText, hr, generateRequest_state, draft_state, Operation.stored,
        Operation.input?, Except.toOption]

/-- What submits neither stores nor drafts. -/
theorem quiet_of_target (h : e.target? s op = some t) (store : Store) :
    op.stored store = store ∧ op.input? = none := by
  cases op with
  | insert _ _ | draft _ | generateRequest _ | generateText _ | load _ | catalog => cases h
  | submit _ | submitRequest _ | submitText _ | submitTo _ _ => exact ⟨rfl, rfl⟩

end Engine

end AppDef
