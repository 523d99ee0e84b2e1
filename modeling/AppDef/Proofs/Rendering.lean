import AppDef.Proofs.Dict
import AppDef.Proofs.Gate
import AppDef.Rendering

namespace AppDef

namespace Field

variable {f : Field} {value? : Option Json}

/-- A checkbox is answered by what holds true, all else by what is not blank. -/
def isAnswered (f : Field) (value? : Option Json) : Bool :=
  value?.any fun v => if f.kind = .checkbox then (Scalar.ofJson v).truthy else !v.isBlank

/-- Nothing but a missing answer is reported as one. -/
theorem not_required_of_answerViolation? {value : Json} {v : Violation}
    (h : f.answerViolation? value = some v) : v.isRequired = false := by
  unfold answerViolation? at h
  split at h
  · unfold numberViolation? at h
    split at h
    · cases h
      rfl
    · rcases Option.or_eq_some_iff.mp h with h | ⟨_, h⟩ <;>
        (obtain ⟨_, _, rfl⟩ := Option.map_eq_some_iff.mp h; rfl)
  · split at h
    · simp only [optionViolation?] at h
      split at h <;> cases h
      rfl
    · split at h
      · simp only [textViolation?] at h
        split at h
        · cases h
          rfl
        · split at h <;> cases h
          rfl
      · cases h

/-- A field lacks an answer exactly when one is required of it and was not given. -/
theorem isLacking_eq (f : Field) (value? : Option Json) :
    f.isLacking value? = (f.required && !f.isAnswered value?) := by
  by_cases hk : f.kind = .checkbox
  · cases hr : f.required <;>
      cases ht : value?.any (fun v => (Scalar.ofJson v).truthy) <;>
      simp [isLacking, violation?, isAnswered, hk, hr, ht, Violation.isRequired]
  · have hu : f.isAnswered value? = !Json.unanswered value? := by
      cases value? <;> simp [isAnswered, hk, Json.unanswered]
    cases hb : Json.unanswered value? with
    | true => cases hr : f.required <;>
        simp [isLacking, violation?, hk, hb, hr, hu, Violation.isRequired]
    | false =>
      have hnone : ((value?.bind f.answerViolation?).any Violation.isRequired) = false := by
        cases hv : value?.bind f.answerViolation? with
        | none => rfl
        | some v =>
          obtain ⟨value, _, hvalue⟩ := Option.bind_eq_some_iff.mp hv
          exact not_required_of_answerViolation? hvalue
      simp [isLacking, violation?, hk, hb, hu, hnone]

theorem code_of_check {e : FieldError} (h : f.check value? = some e) (hc : e.code = "required") :
    e.field = f.name ∧ f.isLacking value? = true := by
  obtain ⟨v, hv, rfl⟩ := check_eq_some_iff.mp h
  refine ⟨rfl, ?_⟩
  have hr : v.isRequired = true := by
    rw [Violation.isRequired_eq]
    exact beq_iff_eq.mpr hc
  simp [isLacking, hv, hr]

end Field

namespace Document

variable {d : Document} {values : Values} {f : Field} {r : Rendering}

theorem get?_environment (d : Document) (values : Values) (name : String) :
    (d.environment values).get? name = (values.get? name).or (d.defaults.get? name) :=
  Dict.get?_overlay d.defaults values name

/-- Nothing was captured for the field, and the default under its name answers it. -/
def fillsIn (d : Document) (values : Values) (f : Field) : Bool :=
  (values.get? f.name).isNone && f.isAnswered (d.defaults.get? f.name)

theorem isAnswered_environment :
    f.isAnswered ((d.environment values).get? f.name) =
      (f.isAnswered (values.get? f.name) || d.fillsIn values f) := by
  rw [get?_environment, fillsIn]
  cases values.get? f.name <;> simp [Field.isAnswered]

/-- What is filled in was not answered before. -/
theorem not_isAnswered_of_fillsIn (h : d.fillsIn values f = true) :
    f.isAnswered (values.get? f.name) = false := by
  obtain ⟨hnone, _⟩ := Bool.and_eq_true_iff.mp h
  rw [Option.isNone_iff_eq_none.mp hnone]
  rfl

/-- Dropping some of the chosen items drops none exactly when all that are chosen are kept. -/
theorem map_filter_and_eq_iff {α β : Type} {l : List α} {p q : α → Bool} {g : α → β} :
    (l.filter fun a => p a && q a).map g = (l.filter p).map g ↔
      ∀ a ∈ l, p a = true → q a = true := by
  have hfilter : (l.filter fun a => p a && q a) = (l.filter p).filter q := by
    rw [List.filter_filter]
    simp only [Bool.and_comm]
  rw [hfilter]
  constructor
  · intro h a ha hp
    have hlength := congrArg List.length h
    rw [List.length_map, List.length_map, List.length_filter_eq_length_iff] at hlength
    exact hlength a (List.mem_filter.mpr ⟨ha, hp⟩)
  · intro h
    have hall : ∀ a ∈ l.filter p, q a = true := by
      intro a ha
      obtain ⟨ha, hp⟩ := List.mem_filter.mp ha
      exact h a ha hp
    rw [List.filter_eq_self.mpr hall]

theorem missingRequired_eq (d : Document) (values : Values) :
    (d.validate values).missingRequired =
      (d.fields.filter fun f => f.required && !f.isAnswered (values.get? f.name)).map (·.name) := by
  simp only [Document.validate, AppDef.validate, Field.isLacking_eq]

/-- With the defaults filled in, the fields that they answer are missing no longer. -/
theorem missingRequired_environment :
    (d.validate (d.environment values)).missingRequired =
      (d.fields.filter fun f => f.required && !f.isAnswered (values.get? f.name) &&
        !d.fillsIn values f).map (·.name) := by
  simp only [missingRequired_eq, isAnswered_environment, Bool.not_or, Bool.and_assoc]

/-- No default fills in a required field exactly when filling in makes no difference. -/
theorem missingRequired_environment_eq_iff :
    (d.validate (d.environment values)).missingRequired = (d.validate values).missingRequired ↔
      ∀ f ∈ d.fields, f.required = true → d.fillsIn values f = false := by
  rw [missingRequired_environment, missingRequired_eq, map_filter_and_eq_iff]
  refine forall₂_congr fun f _ => ?_
  constructor
  · intro h hr
    cases hfilled : d.fillsIn values f with
    | false => rfl
    | true => simp [hfilled, not_isAnswered_of_fillsIn hfilled, hr] at h
  · intro h hlacking
    have hr : f.required = true := (Bool.and_eq_true_iff.mp hlacking).1
    simp [h hr]

theorem missingRequired_of_render (h : d.render values = .ok r) :
    r.missingRequired = (d.validate (d.environment values)).missingRequired := by
  obtain ⟨views, _, hr⟩ := except_bind_eq_ok.mp h
  cases hr
  rfl

theorem missingRequired_of_complete (h : r.status = .complete) : r.missingRequired = [] := by
  unfold Rendering.status at h
  cases hm : r.missingRequired with
  | nil => rfl
  | cons name names => simp [hm] at h

end Document

namespace Submission

variable {config : EngineConfig} {sinks : Sinks} {d : Document} {values : Values}

/-- What a submission is told to be missing. -/
def missing : Except SubmitError SubmissionReport → List String
  | .error (.invalid found) => found.missingRequired
  | _ => []

theorem missing_submit :
    missing (submit config sinks d values).1 = (d.validate values).missingRequired := by
  cases hs : (submit config sinks d values).1 with
  | error e => rw [submit_eq_error hs]; rfl
  | ok report =>
    have hpasses := valid_validate_iff.mp (accepts_iff.mp ⟨report, hs⟩)
    have hlacking : ∀ f ∈ d.fields, f.isLacking (values.get? f.name) = false := by
      intro f hf
      have hv := Field.check_eq_none_iff.mpr (hpasses f hf)
      simp [Field.isLacking, Option.map_eq_none_iff.mp hv]
    have hnil : (d.validate values).missingRequired = [] := by
      simpa [Document.validate, AppDef.validate] using hlacking
    rw [hnil]
    rfl

end Submission

/-- What is shown as missing is what a submission of the same values is told to be missing, less the
required fields that a default fills in. So the two lists are the same exactly when no default fills
in a required field, a submission of what is shown as complete misses nothing else, and a submission
of the values with the defaults filled in misses exactly what is shown. -/
theorem Document.missing_shown_and_submitted (config : EngineConfig) (sinks : Sinks) (d : Document)
    (values : Values) (r : Rendering) (h : d.render values = .ok r) :
    let submitted := (Submission.submit config sinks d values).1
    Submission.missing submitted =
        (d.fields.filter fun f => f.required && !f.isAnswered (values.get? f.name)).map (·.name) ∧
      r.missingRequired =
        (d.fields.filter fun f => f.required && !f.isAnswered (values.get? f.name) &&
          !d.fillsIn values f).map (·.name) ∧
      (r.missingRequired = Submission.missing submitted ↔
        ∀ f ∈ d.fields, f.required = true → d.fillsIn values f = false) ∧
      (r.status = .complete → ∀ found, submitted = .error (.invalid found) →
        ∀ e ∈ found.errors, e.code = "required" →
          ∃ f ∈ d.fields, e.field = f.name ∧ f.required = true ∧ d.fillsIn values f = true) ∧
      r.missingRequired =
        Submission.missing (Submission.submit config sinks d (d.environment values)).1 := by
  have hshown := missingRequired_of_render h
  simp only [Submission.missing_submit]
  refine ⟨missingRequired_eq d values, hshown.trans missingRequired_environment, ?_, ?_, hshown⟩
  · rw [hshown]
    exact missingRequired_environment_eq_iff
  · intro hcomplete found hfound e he hcode
    cases Submission.submit_eq_error hfound
    obtain ⟨f, hf, hcheck⟩ := List.mem_filterMap.mp he
    obtain ⟨hname, hlacking⟩ := Field.code_of_check hcheck hcode
    obtain ⟨hr, hu⟩ := Bool.and_eq_true_iff.mp (f.isLacking_eq _ ▸ hlacking)
    cases hfilled : d.fillsIn values f with
    | true => exact ⟨f, hf, hname, hr, hfilled⟩
    | false =>
      -- what is neither answered nor filled in would be shown as missing
      have hmem : f.name ∈ r.missingRequired := by
        rw [hshown, missingRequired_environment]
        exact List.mem_map.mpr ⟨f, List.mem_filter.mpr ⟨hf, by simp [hr, hu, hfilled]⟩, rfl⟩
      rw [missingRequired_of_complete hcomplete] at hmem
      cases hmem

/-- A required width of which a default is known. -/
def Field.width : Field where
  name := "width"
  label := "Width"
  kind := .text
  placeholder := none
  required := true
  options := []
  defaultValue := some (.text "4")
  constraints := none
  extra := {}

def Document.room : Document where
  identity := ⟨"Room", "room", "Measures a room", none⟩
  sections := [.form ⟨none, [.width]⟩]
  crm := none
  settings := none

theorem Document.missing_shown_and_submitted_room :
    ∃ r found e, room.render {} = .ok r ∧ r.status = .complete ∧
      (Submission.submit .default Submission.allRecording room {}).1 = .error (.invalid found) ∧
      e ∈ found.errors ∧ e.code = "required" ∧
      ∃ f ∈ room.fields, e.field = f.name ∧ f.required = true ∧ room.fillsIn {} f = true := by
  have hmem : (⟨"width", "Width is required", "required"⟩ : FieldError) ∈
      (AppDef.validate room.fields {}).errors := List.mem_cons_self
  exact ⟨_, _, _, rfl, rfl, rfl, hmem, rfl,
    (missing_shown_and_submitted .default Submission.allRecording room {} _ rfl).2.2.2.1
      rfl _ rfl _ hmem rfl⟩

/-- A room is shown as complete, and the same values are refused for want of its width. -/
theorem Document.room_complete_but_refused :
    (∃ r, room.render {} = .ok r ∧ r.status = .complete ∧ r.missingRequired = []) ∧
    ∃ found, (Submission.submit .default Submission.allRecording room {}).1 =
        .error (.invalid found) ∧
      found.missingRequired = ["width"] ∧
      found.errors = [⟨"width", "Width is required", "required"⟩] :=
  ⟨⟨_, rfl, rfl, rfl⟩, _, rfl, rfl, rfl⟩

end AppDef
