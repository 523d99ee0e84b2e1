import AppDef.Proofs.Submission

namespace AppDef

namespace Text

/-- No blank is a letter. -/
theorem toLower_of_isBlank {c : Char} (h : isBlank c = true) : c.toLower = c := by
  refine dif_neg ?_
  rintro ⟨hA, hZ⟩
  have hlow : 65 ≤ c.toNat := UInt32.le_iff_toNat_le.mp hA
  have hhigh : c.toNat ≤ 90 := UInt32.le_iff_toNat_le.mp hZ
  simp [isBlank, blanks] at h
  omega

theorem lowercase_of_allBlank {s : String} (h : allBlank s = true) : lowercase s = s := by
  have hmap : s.toList.map Char.toLower = s.toList.map id :=
    List.map_congr_left fun c hc => toLower_of_isBlank (List.all_eq_true.mp h c hc)
  rw [lowercase, hmap, List.map_id, String.ofList_toList]

theorem not_sameLetters_false_of_allBlank {s : String} (h : allBlank s = true) :
    sameLetters s "false" = false := by
  by_contra hs
  have he : s = lowercase "false" := by
    simpa [sameLetters, lowercase_of_allBlank h] using hs
  rw [he] at h
  exact absurd h (by decide)

end Text

namespace Json

/-- A blank value that holds true. -/
inductive TrueBlank : Json → Prop
  | text {s : String} (hs : s ≠ "") (hb : Text.allBlank s = true) : TrueBlank (.text s)
  | list : TrueBlank (.array [])

theorem truthy_iff_of_isBlank {v : Json} (h : v.isBlank = true) :
    (Scalar.ofJson v).truthy = true ↔ v.TrueBlank := by
  cases v with
  | null => constructor <;> (intro ht; cases ht)
  | bool _ | number _ | object _ => cases h
  | text s =>
    have hf : Text.sameLetters s "false" = false := Text.not_sameLetters_false_of_allBlank h
    constructor
    · intro ht
      refine .text ?_ h
      rintro rfl
      exact absurd ht (by decide)
    · intro ht
      cases ht with
      | text hs _ => simpa [Scalar.ofJson, Scalar.truthy, hf] using hs
  | array items =>
    have hi : items = [] := List.isEmpty_iff.mp h
    subst hi
    exact ⟨fun _ => .list, fun _ => by decide⟩

end Json

namespace Field

variable {f : Field} {value? : Option Json}

/-- The field is a checkbox, and what was captured is blank and ticks it all the same. -/
def TickedBlank (f : Field) (value? : Option Json) : Prop :=
  f.kind = .checkbox ∧ ∃ v, value? = some v ∧ v.TrueBlank

theorem TickedBlank.violation? (h : f.TickedBlank value?) : f.violation? value? = none := by
  obtain ⟨hk, v, rfl, hv⟩ := h
  have hb : v.isBlank = true := by
    cases hv with
    | text _ hb => exact hb
    | list => rfl
  have ht : (Scalar.ofJson v).truthy = true := (Json.truthy_iff_of_isBlank hb).mpr hv
  simp [Field.violation?, hk, ht]

/-- Whatever its kind, a required field reports a blank value that does not tick it. -/
theorem violation?_of_unanswered (hr : f.required = true) (hu : Json.unanswered value? = true)
    (ht : ¬ f.TickedBlank value?) : f.violation? value? = some .required := by
  by_cases hk : f.kind = .checkbox
  · have hfalse : value?.any (fun v => (Scalar.ofJson v).truthy) = false := by
      cases value? with
      | none => rfl
      | some v =>
        have hv : ¬ v.TrueBlank := fun hv => ht ⟨hk, v, rfl, hv⟩
        simpa using mt (Json.truthy_iff_of_isBlank hu).mp hv
    simp [violation?, hk, hr, hfalse]
  · simp [violation?, hk, hu, hr]

end Field

theorem validate_of_violation {fields : List Field} {values : Values} {f : Field} {v : Violation}
    (hf : f ∈ fields) (hv : f.violation? (values.get? f.name) = some v) :
    f.report v ∈ (validate fields values).errors ∧
      (v.isRequired = true → f.name ∈ (validate fields values).missingRequired) := by
  constructor
  · exact List.mem_filterMap.mpr ⟨f, hf, by simp [Field.check, hv]⟩
  · intro hr
    refine List.mem_map.mpr ⟨f, List.mem_filter.mpr ⟨hf, ?_⟩, rfl⟩
    simp [Field.isLacking, hv, hr]

namespace Submission

variable {config : EngineConfig} {sinks : Sinks} {d : Document} {values : Values}

theorem accepts_iff :
    (∃ report, (submit config sinks d values).1 = .ok report) ↔
      (validate d.fields values).valid = true := by
  rw [valid_validate_iff]
  constructor
  · rintro ⟨report, h⟩ f hf hfails
    rw [submit_of_fails hf hfails] at h
    cases h
  · intro h
    exact ⟨_, congrArg Prod.fst (submit_of_passes h)⟩

/-- A submission is accepted exactly when the check of all fields finds nothing, and then every
required field has a value that is not blank, or is a checkbox that a blank one ticks. A check
lists every other blank value of a required field as missing. -/
theorem required_answered_or_ticked (config : EngineConfig) (sinks : Sinks) (d : Document)
    (values : Values) :
    ((∃ report, (submit config sinks d values).1 = .ok report) ↔
      (validate d.fields values).valid = true) ∧
    ((∃ report, (submit config sinks d values).1 = .ok report) →
      ∀ f ∈ d.fields, f.required = true →
        Json.unanswered (values.get? f.name) = false ∨ f.TickedBlank (values.get? f.name)) ∧
    (∀ (fields : List Field), ∀ f ∈ fields, f.required = true →
      Json.unanswered (values.get? f.name) = true → ¬ f.TickedBlank (values.get? f.name) →
        (∃ e ∈ (validate fields values).errors, e.field = f.name ∧ e.code = "required") ∧
        f.name ∈ (validate fields values).missingRequired) ∧
    ∀ f : Field, f.TickedBlank (values.get? f.name) → f.check (values.get? f.name) = none := by
  refine ⟨accepts_iff, ?_, ?_, fun f ht => by simp [Field.check, ht.violation?]⟩
  · intro haccepted f hf hr
    have hpasses : ∀ f ∈ d.fields, ¬ f.Fails values :=
      valid_validate_iff.mp (accepts_iff.mp haccepted)
    by_cases ht : f.TickedBlank (values.get? f.name)
    · exact .inr ht
    · cases hu : Json.unanswered (values.get? f.name) with
      | false => exact .inl rfl
      | true => exact absurd ⟨_, Field.violation?_of_unanswered hr hu ht⟩ (hpasses f hf)
  · intro fields f hf hr hu ht
    have hv := Field.violation?_of_unanswered hr hu ht
    obtain ⟨herror, hmissing⟩ := validate_of_violation hf hv
    exact ⟨⟨_, herror, rfl, rfl⟩, hmissing rfl⟩

/-- A checkbox that has to be ticked. -/
def consent : Field where
  name := "consent"
  label := "Consent"
  kind := .checkbox
  placeholder := none
  required := true
  options := []
  defaultValue := none
  constraints := none
  extra := {}

def consentForm : Document where
  identity := ⟨"Consent", "consent", "Asks for consent", none⟩
  sections := [.form ⟨none, [consent]⟩]
  crm := none
  settings := none

def allRecording : Sinks := ⟨.recording, .recording, .recording⟩

theorem consent_mem : consent ∈ consentForm.fields :=
  List.mem_cons_self

theorem required_answered_or_ticked_consent :
    ((∃ report, (submit .default allRecording consentForm
        (Dict.empty.insert "consent" (.bool true))).1 = .ok report) ∧
      (Json.unanswered (some (.bool true)) = false ∨ consent.TickedBlank (some (.bool true)))) ∧
    (∃ e ∈ (validate [consent] {}).errors, e.field = "consent" ∧ e.code = "required") ∧
      "consent" ∈ (validate [consent] {}).missingRequired := by
  have haccepted : ∃ report, (submit .default allRecording consentForm
      (Dict.empty.insert "consent" (.bool true))).1 = .ok report :=
    ⟨_, rfl⟩
  have hticked := (required_answered_or_ticked .default allRecording consentForm _).2.1 haccepted
    consent consent_mem rfl
  have hempty : ¬ consent.TickedBlank (({} : Values).get? consent.name) := by
    rintro ⟨_, v, hv, _⟩
    cases hv
  have hmissing := (required_answered_or_ticked .default allRecording consentForm {}).2.2.1
    [consent] consent List.mem_cons_self rfl rfl hempty
  exact ⟨⟨haccepted, hticked⟩, hmissing⟩

/-- Two blanks tick a required checkbox, so that its submission is accepted without an answer. -/
theorem blank_tick_accepted :
    (∃ report, (submit .default allRecording consentForm
      (Dict.empty.insert "consent" (.text "  "))).1 = .ok report) ∧
    consent ∈ consentForm.fields ∧ consent.required = true ∧
    Json.unanswered ((Dict.empty.insert "consent" (.text "  ")).get? "consent") = true :=
  ⟨⟨_, rfl⟩, consent_mem, rfl, by decide⟩

end Submission

end AppDef
