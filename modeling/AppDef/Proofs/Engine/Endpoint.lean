import AppDef.Proofs.Engine.Step
import AppDef.Proofs.Json.Decoding
import AppDef.Proofs.Json.Printing

namespace AppDef

theorem FieldError.decode_toJson (e : FieldError) : FieldError.decode e.toJson = .ok e :=
  rfl

theorem FieldError.toJson_plain (e : FieldError) : e.toJson.Plain 1 :=
  .object (by simp [Members.Distinct]) (List.forall_mem_cons.mpr ⟨.text _,
    List.forall_mem_cons.mpr ⟨.text _, List.forall_mem_singleton.mpr (.text _)⟩⟩)

namespace SubmitResponse

/-- A response is told apart by its members, so that each is read as itself. -/
theorem decode_toJson (r : SubmitResponse) : decode r.toJson = .ok r := by
  cases r with
  | rejected flag errors =>
    have hflag : decodeMember "accepted" Json.decodeFlag (rejected flag errors).toJson = .ok flag :=
      rfl
    have herrors : decodeMember "errors" (Json.decodeList FieldError.decode)
        (rejected flag errors).toJson = .ok errors :=
      Json.decodeList_map fun e _ => e.decode_toJson
    have h : decodeRejected (rejected flag errors).toJson = .ok (rejected flag errors) := by
      simp only [decodeRejected, hflag, herrors, except_ok_bind, except_pure]
    simp [decode, decodeFirst, h, Except.toOption]
  | accepted flag => rfl
  | failed message => rfl

theorem toJson_plain (r : SubmitResponse) : r.toJson.Plain 3 := by
  cases r with
  | rejected flag errors =>
    have herrors : (Json.array (errors.map FieldError.toJson)).Plain 2 :=
      .array (List.forall_mem_map.mpr fun e _ => e.toJson_plain)
    exact .object (by simp [Members.Distinct])
      (List.forall_mem_cons.mpr ⟨.bool flag, List.forall_mem_singleton.mpr herrors⟩)
  | accepted flag =>
    exact .object (by simp [Members.Distinct]) (List.forall_mem_singleton.mpr (.bool flag))
  | failed message =>
    exact .object (by simp [Members.Distinct]) (List.forall_mem_singleton.mpr (.text message))

/-- The text of a response is that of an object, which reads as the response. -/
theorem read_print (r : SubmitResponse) : ∃ members,
    Json.read r.toJson.print = .ok (.object members) ∧ decode (.object members) = .ok r := by
  have hread : Json.read r.toJson.print = .ok r.toJson := Json.read_print r.toJson_plain (by decide)
  obtain ⟨members, hm⟩ : ∃ members, r.toJson = .object members := by
    cases r <;> exact ⟨_, rfl⟩
  exact ⟨members, hm ▸ hread, hm ▸ r.decode_toJson⟩

end SubmitResponse

namespace Engine

variable {e : Engine} {s : EngineState} {d : Document} {values : Values} {body : String}

theorem load_eq_ok_iff {slug : String} : e.load s slug = .ok d ↔ e.storeFault = none ∧
    ∃ raw, s.store.get? slug e.config.storeStatus = some raw ∧ Document.ofJson raw = .ok d := by
  unfold load lookUp
  cases e.storeFault with
  | some fault => simp [Except.mapError]
  | none =>
    cases s.store.get? slug e.config.storeStatus with
    | none => simp
    | some raw => simp [except_mapError_eq_ok]

/-- The body is a request with these values for a slug under which the store has, with the status
of the configuration, a raw document that is valid as this one. -/
def Asks (e : Engine) (s : EngineState) (body : String) (d : Document) (values : Values) : Prop :=
  ∃ request raw, SubmitRequest.read body = .ok request ∧ request.values = values ∧
    e.storeFault = none ∧ s.store.get? request.slug e.config.storeStatus = some raw ∧
    Document.ofJson raw = .ok d

theorem asks_iff :
    e.Asks s body d values ↔ e.target? s (.submitText body) = some (.ok (d, values)) := by
  constructor
  · rintro ⟨request, raw, hread, rfl, hfault, hraw, hd⟩
    have hload : e.load s request.slug = .ok d := load_eq_ok_iff.mpr ⟨hfault, raw, hraw, hd⟩
    simp [target?, hread, Except.toOption, found, hload]
  · intro h
    obtain ⟨request, hread, hfound⟩ := target?_submitText h
    obtain ⟨d', hload, he⟩ := except_map_eq_ok.mp hfound
    cases he
    obtain ⟨hfault, raw, hraw, hd⟩ := load_eq_ok_iff.mp hload
    exact ⟨request, raw, hread, rfl, hfault, hraw, hd⟩

/-- A body asks for one document with one map of values at most. -/
theorem Asks.unique {d' : Document} {values' : Values} (h : e.Asks s body d values)
    (h' : e.Asks s body d' values') : d' = d ∧ values' = values := by
  have ht := (asks_iff.mp h').symm.trans (asks_iff.mp h)
  simpa using ht

/-- A slug that is brought to no document is not refused by fields: none of them was looked at. -/
theorem respond_of_load_error {slug : String} {fault : SubmitError}
    (h : e.load s slug = .error fault) : respond (.error fault) = .failed fault.message := by
  unfold load lookUp at h
  cases hf : e.storeFault with
  | some _ =>
    rw [hf] at h
    cases h
    rfl
  | none =>
    rw [hf] at h
    cases hraw : s.store.get? slug e.config.storeStatus with
    | none =>
      rw [hraw] at h
      cases h
      rfl
    | some raw =>
      rw [hraw] at h
      obtain ⟨_, _, rfl⟩ := except_mapError_eq_error.mp h
      rfl

/-- All that a posted body can come to: a response and a state behind it. -/
inductive ComesTo (e : Engine) (s : EngineState) (body : String) :
    SubmitResponse → EngineState → Prop
  | accepted {d : Document} {values : Values} (h : e.Asks s body d values)
      (hp : ∀ f ∈ d.fields, ¬ f.Fails values) :
      ComesTo e s body (.accepted true) { s with calls := s.calls ++ d.effects e.config values }
  | refused {d : Document} {values : Values} (h : e.Asks s body d values)
      (hv : ∃ f ∈ d.fields, f.Fails values) :
      ComesTo e s body (.rejected false (validate d.fields values).errors) s
  | failed (h : ∀ d values, ¬ e.Asks s body d values) (message : String) :
      ComesTo e s body (.failed message) s

/-- What a body comes to is read off the step that it makes. -/
theorem submitText_of_step {text : String} {s' : EngineState}
    (h : e.step s (.submitText body) = (.body text, s')) : e.submitText s body = (text, s') := by
  rcases hs : e.submitText s body with ⟨text', s''⟩
  simp only [step, hs] at h
  cases h
  rfl

theorem not_asks_of_target (h : ∀ d values, e.target? s (.submitText body) ≠ some (.ok (d, values)))
    (d : Document) (values : Values) : ¬ e.Asks s body d values :=
  fun ha => h d values (asks_iff.mp ha)

theorem submitText_comesTo (e : Engine) (s : EngineState) (body : String) :
    ∃ r s', e.submitText s body = (r.toJson.print, s') ∧ e.ComesTo s body r s' := by
  cases e.case s (.submitText body) with
  | passed d values h hp =>
    exact ⟨.accepted true, _, submitText_of_step (step_of_passed h hp),
      .accepted (asks_iff.mpr h) hp⟩
  | refused d values h f hf hv =>
    exact ⟨.rejected false (validate d.fields values).errors, s,
      submitText_of_step (step_of_refused h hf hv), .refused (asks_iff.mpr h) ⟨f, hf, hv⟩⟩
  | missed fault h =>
    obtain ⟨request, -, hfound⟩ := target?_submitText h
    have hrespond : respond (.error fault) = .failed fault.message :=
      respond_of_load_error (except_map_eq_error.mp hfound)
    have hstep : e.step s (.submitText body) =
        (.body (SubmitResponse.failed fault.message).toJson.print, s) := by
      rw [step_of_missed h, Operation.answer, hrespond]
    exact ⟨.failed fault.message, s, submitText_of_step hstep,
      .failed (not_asks_of_target (by simp [h])) _⟩
  | other h =>
    obtain ⟨message, hread⟩ := read_of_no_target h
    have hs : e.submitText s body = (errorBody ("invalid request: " ++ message), s) := by
      simp only [submitText, hread]
    exact ⟨.failed ("invalid request: " ++ message), s, hs,
      .failed (not_asks_of_target (by simp [h])) _⟩

/-- A response tells how far the body that it answers got: all fields of the document that it asks
for accept the values, or some do not, or there is no such document. A refusal has one error for
each field that fails, in their order. -/
structure Classifies (e : Engine) (s : EngineState) (body : String) (r : SubmitResponse) :
    Prop where
  accepted : r = .accepted true ↔
    ∃ d values, e.Asks s body d values ∧ ∀ f ∈ d.fields, ¬ f.Fails values
  refused : ∀ flag errors, r = .rejected flag errors ↔ flag = false ∧
    ∃ d values, e.Asks s body d values ∧ (∃ f ∈ d.fields, f.Fails values) ∧
      List.Forall₂
        (fun f error => ∃ v, f.violation? (values.get? f.name) = some v ∧ error = f.report v)
        (d.fields.filter (·.Fails values)) errors
  failed : (∃ message, r = .failed message) ↔ ¬ ∃ d values, e.Asks s body d values

/-- The errors of a refusal are determined by what they tell of. -/
theorem errors_unique {errors : List FieldError}
    (h : List.Forall₂
      (fun f error => ∃ v, f.violation? (values.get? f.name) = some v ∧ error = f.report v)
      (d.fields.filter (·.Fails values)) errors) : errors = (validate d.fields values).errors := by
  refine List.right_unique_forall₂' ?_ h (validate_accounts d.fields values).errors
  rintro f _ _ ⟨v, hv, rfl⟩ ⟨v', hv', rfl⟩
  rw [hv] at hv'
  cases hv'
  rfl

theorem ComesTo.classifies {r : SubmitResponse} {s' : EngineState} (h : e.ComesTo s body r s') :
    e.Classifies s body r := by
  cases h with
  | accepted h hp =>
    refine ⟨by simpa using ⟨_, _, h, hp⟩, fun flag errors => ?_, by simpa using ⟨_, _, h⟩⟩
    simp only [reduceCtorEq, false_iff]
    rintro ⟨-, d', values', h', ⟨f, hf, hv⟩, -⟩
    obtain ⟨rfl, rfl⟩ := h.unique h'
    exact hp f hf hv
  | @refused d values h hv =>
    refine ⟨?_, fun flag errors => ?_, by simpa using ⟨_, _, h⟩⟩
    · simp only [reduceCtorEq, false_iff]
      rintro ⟨d', values', h', hp⟩
      obtain ⟨rfl, rfl⟩ := h.unique h'
      obtain ⟨f, hf, hv⟩ := hv
      exact hp f hf hv
    · constructor
      · intro he
        cases he
        exact ⟨rfl, d, values, h, hv, (validate_accounts d.fields values).errors⟩
      · rintro ⟨rfl, d', values', h', -, herrors⟩
        obtain ⟨rfl, rfl⟩ := h.unique h'
        rw [errors_unique herrors]
  | failed h message =>
    refine ⟨?_, fun flag errors => ?_, by simpa using h⟩
    · simp only [reduceCtorEq, false_iff]
      rintro ⟨d, values, ha, -⟩
      exact h d values ha
    · simp only [reduceCtorEq, false_iff]
      rintro ⟨-, d, values, ha, -⟩
      exact h d values ha

/-- What comes back for a body is the text of an object that reads as a response, which classifies
the body. Unless the body is accepted no sink is called, and nothing is changed. -/
theorem submitText_classified (e : Engine) (s : EngineState) (body : String) :
    ∃ members r, Json.read (e.submitText s body).1 = .ok (.object members) ∧
      SubmitResponse.decode (.object members) = .ok r ∧ e.Classifies s body r ∧
      (r ≠ .accepted true → (e.submitText s body).2 = s) := by
  obtain ⟨r, s', hs, hc⟩ := submitText_comesTo e s body
  obtain ⟨members, hread, hdecode⟩ := r.read_print
  have hquiet : r ≠ .accepted true → s' = s := by
    cases hc with
    | accepted h hp => exact fun hr => absurd rfl hr
    | refused h hv | failed h message => exact fun _ => rfl
  rw [hs]
  exact ⟨members, r, hread, hdecode, hc.classifies, hquiet⟩

end Engine

end AppDef
