import AppDef.Proofs.Required
import AppDef.Proofs.Wizard

namespace AppDef

variable {values : Values}

section Parts

variable {α : Type} {fieldsOf : α → List Field} {parts : List α}

theorem errors_validate_flatMap : (validate (parts.flatMap fieldsOf) values).errors =
    parts.flatMap fun part => (validate (fieldsOf part) values).errors :=
  List.filterMap_flatMap

theorem missingRequired_validate_flatMap :
    (validate (parts.flatMap fieldsOf) values).missingRequired =
      parts.flatMap fun part => (validate (fieldsOf part) values).missingRequired := by
  simp only [validate, List.filter_flatMap, List.map_flatMap]

theorem valid_validate_flatMap : (validate (parts.flatMap fieldsOf) values).valid = true ↔
    ∀ part ∈ parts, (validate (fieldsOf part) values).valid = true := by
  simp [Validation.valid, errors_validate_flatMap, List.flatMap_eq_nil_iff]

end Parts

namespace WizardSection

variable {s : WizardSection} {step : WizardStep} {i n : Nat}

/-- The errors for which a wizard is not taken on from the step `i`. -/
def refusal (s : WizardSection) (values : Values) (i : Nat) : List FieldError :=
  match s.next values (.step i) with
  | .error (.invalid errors) => errors
  | _ => []

theorem next_eq_ok_iff (hs : s.steps[i]? = some step) :
    (∃ state, s.next values (.step i) = .ok state) ↔
      (validate step.fields values).valid = true := by
  cases hv : (validate step.fields values).valid <;> simp [next, hs, hv]

/-- A step reports what a check of its fields finds. -/
theorem refusal_eq (hs : s.steps[i]? = some step) :
    s.refusal values i = (validate step.fields values).errors := by
  cases hv : (validate step.fields values).valid with
  | true =>
    have hnil : (validate step.fields values).errors = [] := List.isEmpty_iff.mp hv
    simp [refusal, next, hs, hv, hnil]
  | false => simp [refusal, next, hs, hv]

theorem flatMap_refusal : (List.range s.steps.length).flatMap (s.refusal values) =
    s.steps.flatMap fun step => (validate step.fields values).errors := by
  rw [List.flatMap_def, List.flatMap_def]
  congr 1
  refine List.ext_getElem (by simp) fun i _ hi => ?_
  simp only [List.length_map] at hi
  simpa using refusal_eq (List.getElem?_eq_getElem hi)

/-- Asked for the next step again and again, each time with these values, the wizard is completed
by so many calls, all of which succeed, and not by fewer. -/
structure CompletesIn (s : WizardSection) (values : Values) (count : Nat) : Prop where
  succeeds : ∀ t ∈ s.turns (List.replicate count (.next values)), ∃ state, t.answer = .ok state
  completed : s.reached (List.replicate count (.next values)) = .completed
  notBefore : ∀ k < count, s.reached (List.replicate k (.next values)) ≠ .completed

/-- The state with so many steps behind it. -/
def standing (s : WizardSection) (n : Nat) : WizardState :=
  if n < s.steps.length then .step n else .completed

theorem initial_eq_standing : s.initial = s.standing 0 := by
  cases h : s.steps <;> simp [initial, standing, h]

/-- Values that the fields of a step accept leave it behind. -/
theorem turn_of_valid (hs : s.steps[i]? = some step)
    (hv : (validate step.fields values).valid = true) :
    (s.turn (.step i) (.next values)).after = s.standing (i + 1) := by
  have hnext : s.next values (.step i) = .ok (s.after i) := by simp [next, hs, hv]
  simp only [turn, answer, hnext]
  rfl

/-- The first calls succeed exactly when the fields of the first steps accept the values, and then
they leave these steps behind. -/
theorem replicate_next (hn : n ≤ s.steps.length) :
    ((∀ t ∈ s.turns (List.replicate n (.next values)), ∃ state, t.answer = .ok state) ↔
      ∀ step ∈ s.steps.take n, (validate step.fields values).valid = true) ∧
    ((∀ step ∈ s.steps.take n, (validate step.fields values).valid = true) →
      s.reached (List.replicate n (.next values)) = s.standing n) := by
  induction n with
  | zero => exact ⟨by simp [turns, turnsFrom], fun _ => initial_eq_standing⟩
  | succ n ih =>
    obtain ⟨ihturns, ihreached⟩ := ih (by omega)
    have hs : s.steps[n]? = some s.steps[n] := List.getElem?_eq_getElem hn
    have hstanding : s.standing n = .step n := if_pos hn
    rw [List.replicate_succ', turns_concat, reached_concat, ← List.take_append_getElem hn]
    simp only [List.forall_mem_append, List.forall_mem_singleton, ihturns]
    -- once the first calls have succeeded, the last one is made at the step n
    constructor
    · refine and_congr_right fun hvalid => ?_
      rw [ihreached hvalid, hstanding]
      exact next_eq_ok_iff hs
    · rintro ⟨hvalid, hlast⟩
      rw [ihreached hvalid, hstanding]
      exact turn_of_valid hs hlast

theorem completesIn_iff : s.CompletesIn values s.steps.length ↔
    ∀ step ∈ s.steps, (validate step.fields values).valid = true := by
  obtain ⟨hturns, hreached⟩ := @replicate_next values s _ (Nat.le_refl s.steps.length)
  rw [List.take_length] at hturns hreached
  constructor
  · intro h
    exact hturns.mp h.succeeds
  · intro h
    refine ⟨hturns.mpr h, ?_, ?_⟩
    · rw [hreached h]
      exact if_neg (Nat.lt_irrefl _)
    · intro k hk
      have hfirst : ∀ step ∈ s.steps.take k, (validate step.fields values).valid = true :=
        fun step hstep => h step (List.mem_of_mem_take hstep)
      rw [(replicate_next (Nat.le_of_lt hk)).2 hfirst, standing, if_pos hk]
      simp

end WizardSection

namespace Section

variable {s : Section}

/-- The fields of a form or of a calculator accept the values, or a wizard is completed with them
in as many calls as it has steps. -/
def PassesAlone (s : Section) (values : Values) : Prop :=
  match s with
  | .form part => (validate part.fields values).valid = true
  | .calculator part => (validate part.inputs values).valid = true
  | .wizard part => part.CompletesIn values part.steps.length
  | .text _ | .result _ => True

/-- The errors that a form, a calculator and each step of a wizard report on their own. -/
def errorsAlone (values : Values) : Section → List FieldError
  | .form part => (validate part.fields values).errors
  | .calculator part => (validate part.inputs values).errors
  | .wizard part => (List.range part.steps.length).flatMap (part.refusal values)
  | .text _ | .result _ => []

/-- The fields that lack an answer in a form, in a calculator and in each step of a wizard. -/
def missingAlone (values : Values) : Section → List String
  | .form part => (validate part.fields values).missingRequired
  | .calculator part => (validate part.inputs values).missingRequired
  | .wizard part => part.steps.flatMap fun step => (validate step.fields values).missingRequired
  | .text _ | .result _ => []

theorem passesAlone_iff : s.PassesAlone values ↔ (validate s.fields values).valid = true := by
  cases s with
  | text part | result part => exact ⟨fun _ => rfl, fun _ => trivial⟩
  | form part | calculator part => exact Iff.rfl
  | wizard part => exact WizardSection.completesIn_iff.trans valid_validate_flatMap.symm

theorem errorsAlone_eq : s.errorsAlone values = (validate s.fields values).errors := by
  cases s with
  | text part | result part | form part | calculator part => rfl
  | wizard part => exact WizardSection.flatMap_refusal.trans errors_validate_flatMap.symm

theorem missingAlone_eq : s.missingAlone values = (validate s.fields values).missingRequired := by
  cases s with
  | text part | result part | form part | calculator part => rfl
  | wizard part => exact missingRequired_validate_flatMap.symm

end Section

namespace Submission

/-- A submission is refused with what a check of all fields finds. -/
theorem submit_eq_error {config : EngineConfig} {sinks : Sinks} {d : Document} {e : SubmitError}
    (h : (submit config sinks d values).1 = .error e) : e = .invalid (validate d.fields values) := by
  unfold submit at h
  dsimp only at h
  split at h
  · cases h
  · cases h
    rfl

/-- A submission is accepted exactly when every section passes on its own, a wizard by being
completed with these values, and else it is refused with all that the sections report. -/
theorem gate_is_gate_of_sections (config : EngineConfig) (sinks : Sinks) (d : Document)
    (values : Values) :
    ((∃ report, (submit config sinks d values).1 = .ok report) ↔
      ∀ s ∈ d.sections, s.PassesAlone values) ∧
    ∀ e, (submit config sinks d values).1 = .error e → ∃ found, e = .invalid found ∧
      found.errors = d.sections.flatMap (·.errorsAlone values) ∧
      found.missingRequired = d.sections.flatMap (·.missingAlone values) := by
  constructor
  · simp only [accepts_iff, Section.passesAlone_iff]
    exact valid_validate_flatMap
  · intro e he
    refine ⟨_, submit_eq_error he, ?_, ?_⟩
    · simp only [Section.errorsAlone_eq]
      exact errors_validate_flatMap
    · simp only [Section.missingAlone_eq]
      exact missingRequired_validate_flatMap

end Submission

end AppDef
