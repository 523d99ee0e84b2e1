import AppDef.Validation
import Mathlib.Data.List.Forall2

namespace AppDef

theorem FieldKind.ne_of_hasOptions {k : FieldKind} (h : k.hasOptions = true) :
    k ≠ .checkbox ∧ k ≠ .number := by
  cases k <;> simp_all [hasOptions]

namespace Field

variable {f : Field} {values : Values}

/-- The value captured for the field breaks one of its constraints. -/
def Fails (f : Field) (values : Values) : Prop :=
  ∃ v, f.violation? (values.get? f.name) = some v

instance : Decidable (f.Fails values) :=
  decidable_of_iff ((f.violation? (values.get? f.name)).isSome = true) Option.isSome_iff_exists

theorem check_eq_some_iff {value? : Option Json} {e : FieldError} :
    f.check value? = some e ↔ ∃ v, f.violation? value? = some v ∧ e = f.report v := by
  simp only [check, Option.map_eq_some_iff, eq_comm (a := e)]

theorem check_eq_none_iff : f.check (values.get? f.name) = none ↔ ¬ f.Fails values := by
  rw [check, Option.map_eq_none_iff, Option.eq_none_iff_forall_ne_some, Fails, not_exists]

end Field

theorem Violation.isRequired_eq (v : Violation) : v.isRequired = (v.code == "required") := by
  cases v <;> rfl

namespace Validation

/-- A finding tells of every field that fails, in the order of the fields, and lists those that
lack an answer. -/
structure Accounts (fields : List Field) (values : Values) (found : Validation) : Prop where
  errors : List.Forall₂
    (fun f e => ∃ v, f.violation? (values.get? f.name) = some v ∧ e = f.report v)
    (fields.filter (·.Fails values)) found.errors
  missing : found.missingRequired = (found.errors.filter (·.code == "required")).map (·.field)

end Validation

variable {fields : List Field} {values : Values}

theorem validate_cons (f : Field) :
    validate (f :: fields) values =
      { errors := (f.check (values.get? f.name)).toList ++ (validate fields values).errors
        missingRequired :=
          ((f.check (values.get? f.name)).toList.filter (·.code == "required")).map (·.field) ++
            (validate fields values).missingRequired } := by
  unfold validate Field.check Field.isLacking
  cases hv : f.violation? (values.get? f.name) with
  | none => simp [hv]
  | some v =>
    cases hr : v.code == "required" <;>
      simp [hv, hr, Violation.isRequired_eq, Field.report]

theorem validate_accounts (fields : List Field) (values : Values) :
    (validate fields values).Accounts fields values := by
  induction fields with
  | nil => exact ⟨.nil, rfl⟩
  | cons f fields ih =>
    rw [validate_cons]
    cases hc : f.check (values.get? f.name) with
    | none =>
      have hf : ¬ f.Fails values := Field.check_eq_none_iff.mp hc
      exact ⟨by simpa [hf] using ih.errors, by simpa using ih.missing⟩
    | some e =>
      obtain ⟨v, hv, he⟩ := Field.check_eq_some_iff.mp hc
      have hf : f.Fails values := ⟨v, hv⟩
      refine ⟨?_, by simp [List.filter_cons, ih.missing]; split <;> simp⟩
      simpa [hf] using ⟨⟨v, hv, he⟩, ih.errors⟩

theorem valid_validate_iff :
    (validate fields values).valid = true ↔ ∀ f ∈ fields, ¬ f.Fails values := by
  simp [Validation.valid, validate, List.isEmpty_iff, List.filterMap_eq_nil_iff,
    Field.check_eq_none_iff]

end AppDef
