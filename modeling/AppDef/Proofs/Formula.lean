import AppDef.Evaluation
import AppDef.Proofs.Expr.Evaluation
import AppDef.Proofs.Number
import AppDef.Proofs.Required

namespace AppDef

/-- Whichever way a value is read as a number, it is the same one. -/
theorem Scalar.comparable?_of_asNumber? {a : Scalar} {x y : Float} (hx : a.asNumber? = some x)
    (hy : a.comparable? = some y) : y = x := by
  cases a with
  | missing | bool b => cases hy
  | number z =>
    cases hx
    cases hy
    rfl
  | text s =>
    simp only [asNumber?] at hx
    simp only [comparable?] at hy
    split at hx
    · rename_i ht
      rw [String.isEmpty_iff.mp ht] at hy
      cases hy
    · rw [hy, Option.filter_eq_some_iff] at hx
      exact Option.some.inj hx.1

/-- The number is not below the minimum and not above the maximum. A bound that is no number is
below and above nothing. -/
structure Constraints.Admits (c : Constraints) (x : Float) : Prop where
  min : ∀ b, c.min = some b → ¬ x < b ∧ (b.isNaN = false → b ≤ x)
  max : ∀ b, c.max = some b → ¬ b < x ∧ (b.isNaN = false → x ≤ b)

namespace Field

variable {f : Field} {values : Values} {v : Json}

/-- What a field of numbers accepts is a number within its bounds. -/
theorem numberViolation?_eq_none (h : f.numberViolation? v = none) :
    ∃ x, (Scalar.ofJson v).asNumber? = some x ∧ x.isFinite = true ∧ f.bounds.Admits x := by
  unfold numberViolation? at h
  cases hx : (Scalar.ofJson v).asNumber?.filter (·.isFinite) with
  | none =>
    rw [hx] at h
    cases h
  | some x =>
    obtain ⟨hnumber, hfinite⟩ := Option.filter_eq_some_iff.mp hx
    have hnan : x.isNaN = false := Number.isNaN_of_isFinite hfinite
    rw [hx] at h
    obtain ⟨hmin, hmax⟩ := Option.or_eq_none_iff.mp h
    refine ⟨x, hnumber, hfinite, ?_, ?_⟩
    · intro b hb
      have hlt : ¬ x < b := by simpa [hb] using hmin
      exact ⟨hlt, fun hbnan => Number.le_of_not_lt hnan hbnan hlt⟩
    · intro b hb
      have hlt : ¬ b < x := by simpa [hb] using hmax
      exact ⟨hlt, fun hbnan => Number.le_of_not_lt hbnan hnan hlt⟩

theorem violation?_of_answered (hk : f.kind = .number) (hv : values.get? f.name = some v)
    (ha : v.isBlank = false) : f.violation? (values.get? f.name) = f.numberViolation? v := by
  simp [violation?, answerViolation?, hk, hv, Json.unanswered, ha]

/-- A required field of numbers that accepts the values has an answer. -/
theorem answered_of_required (hk : f.kind = .number) (hr : f.required = true)
    (hp : ¬ f.Fails values) : ∃ v, values.get? f.name = some v ∧ v.isBlank = false := by
  have hticked : ¬ f.TickedBlank (values.get? f.name) := by
    rintro ⟨hc, _⟩
    rw [hk] at hc
    cases hc
  cases hu : Json.unanswered (values.get? f.name) with
  | true => exact absurd ⟨_, violation?_of_unanswered hr hu hticked⟩ hp
  | false =>
    cases hv : values.get? f.name with
    | none => simp [hv, Json.unanswered] at hu
    | some v => exact ⟨v, rfl, by simpa [hv, Json.unanswered] using hu⟩

end Field

/-- All values are bound to their names. -/
def Environment.Holds (env : Environment) (values : Values) : Prop :=
  ∀ name v, values.get? name = some v → env.get? name = some v

/-- What a formula reads under the name of fields that accept the values. -/
structure ReadsNumber (env : Environment) (fields : List Field) (name : String) (a : Scalar)
    (x : Float) : Prop where
  value : Expr.eval .formula env (.variable name) = .ok a
  number : a.asNumber? = some x
  /-- A comparison reads no other number. -/
  compared : ∀ y, a.comparable? = some y → y = x
  finite : x.isFinite = true
  within : ∀ f ∈ fields, f.name = name → f.kind = .number → f.bounds.Admits x

variable {fields : List Field} {values : Values} {env : Environment}

theorem reads_of_valid (hvalid : (validate fields values).valid = true) (henv : env.Holds values)
    {f : Field} (hf : f ∈ fields) (hk : f.kind = .number) (hr : f.required = true) :
    ∃ a x, ReadsNumber env fields f.name a x := by
  have hpasses : ∀ f ∈ fields, ¬ f.Fails values := valid_validate_iff.mp hvalid
  obtain ⟨v, hv, ha⟩ := Field.answered_of_required hk hr (hpasses f hf)
  have hnumber (g : Field) (hg : g ∈ fields) (hname : g.name = f.name) (hgk : g.kind = .number) :
      ∃ x, (Scalar.ofJson v).asNumber? = some x ∧ x.isFinite = true ∧ g.bounds.Admits x := by
    have hgv : values.get? g.name = some v := by rw [hname, hv]
    refine Field.numberViolation?_eq_none ?_
    rw [← Field.violation?_of_answered hgk hgv ha]
    exact Option.eq_none_iff_forall_ne_some.mpr fun violation h => hpasses g hg ⟨violation, h⟩
  obtain ⟨x, hx, hfinite, _⟩ := hnumber f hf rfl hk
  refine ⟨Scalar.ofJson v, x, ?_, hx, fun y => Scalar.comparable?_of_asNumber? hx, hfinite, ?_⟩
  · simp [Expr.eval, henv _ _ hv]
  · intro g hg hname hgk
    obtain ⟨y, hy, _, hadmits⟩ := hnumber g hg hname hgk
    rw [hx] at hy
    cases hy
    exact hadmits

/-- Over the answers to required fields of numbers a formula without texts comes to a number, and
all that can be wrong with it is that it is not finite. -/
theorem formula_of_valid_numbers {source : String} {e : Expr}
    (hvalid : (validate fields values).valid = true) (hparse : Expr.parse source = .ok e)
    (htext : e.every (!·.isText) = true)
    (hnames : ∀ name ∈ e.variableNames,
      ∃ f ∈ fields, f.name = name ∧ f.kind = .number ∧ f.required = true)
    (henv : env.Holds values) :
    ((∃ x, evaluateFormula source env = .ok x ∧ x.isFinite = true) ∨
      evaluateFormula source env = .error .notFinite) ∧
    ∀ name ∈ e.variableNames, ∃ a x, ReadsNumber env fields name a x := by
  have hreads : ∀ name ∈ e.variableNames, ∃ a x, ReadsNumber env fields name a x := by
    intro name hname
    obtain ⟨f, hf, rfl, hk, hr⟩ := hnames name hname
    exact reads_of_valid hvalid henv hf hk hr
  refine ⟨?_, hreads⟩
  have hbound : ∀ name ∈ e.mentions, ∃ v, env.get? name = some v := by
    intro name hname
    obtain ⟨a, x, h⟩ := hreads name (Expr.mem_variableNames.mpr hname)
    obtain ⟨v, hv, _⟩ := Expr.eval_variable_eq_ok_iff.mp h.value
    exact ⟨v, hv⟩
  have hstarts : Expr.StartsNumeric env e := by
    refine ⟨htext, fun name hname v hv => ?_⟩
    obtain ⟨a, x, h⟩ := hreads name (Expr.mem_variableNames.mpr hname)
    obtain ⟨w, hw, rfl⟩ := Expr.eval_variable_eq_ok_iff.mp h.value
    rw [hv] at hw
    cases hw
    exact ⟨x, h.number⟩
  have hformula : evaluateFormula source env = e.evalNumber env := by
    simp [evaluateFormula, hparse]
  rw [hformula]
  exact Expr.evalNumber_of_startsNumeric (Expr.applied_of_parse hparse) hstarts hbound

def side (name : String) : Field where
  name := name
  label := ""
  kind := .number
  placeholder := none
  required := true
  options := []
  defaultValue := none
  constraints := some ⟨some (.ofBits 0), none, none, none⟩
  extra := {}

/-- One side as a number, the other one as a text that writes one. -/
def sides : Values :=
  (Dict.empty.insert "length" (.number (.whole 20))).insert "width" (.text " 7.5 ")

theorem formula_of_valid_numbers_sides :
    (validate [side "length", side "width"] sides).valid = true ∧
    ((∃ x, evaluateFormula "length * width" (sides.insert "result" .null) = .ok x ∧
        x.isFinite = true) ∨
      evaluateFormula "length * width" (sides.insert "result" .null) = .error .notFinite) ∧
    ∃ a x, ReadsNumber (sides.insert "result" .null) [side "length", side "width"] "width" a x := by
  have hvalid : (validate [side "length", side "width"] sides).valid = true := by decide +kernel
  have hparse : Expr.parse "length * width" = .ok (.binary (.arithmetic .multiply)
      (.variable "length") (.variable "width")) := by cbv
  have hnames : ∀ name ∈ Expr.variableNames (.binary (.arithmetic .multiply)
      (.variable "length") (.variable "width")), ∃ f ∈ [side "length", side "width"],
        f.name = name ∧ f.kind = .number ∧ f.required = true := by
    intro name hname
    have hcases : name = "length" ∨ name = "width" := by
      simpa [Expr.mem_variableNames, Expr.mentions] using hname
    rcases hcases with rfl | rfl
    · exact ⟨side "length", List.mem_cons_self, rfl, rfl, rfl⟩
    · exact ⟨side "width", List.mem_cons_of_mem _ List.mem_cons_self, rfl, rfl, rfl⟩
  have henv : Environment.Holds (sides.insert "result" .null) sides := by
    intro name v hv
    have hne : name ≠ "result" := by
      rintro rfl
      cases hv
    rw [Dict.get?_insert, if_neg hne, hv]
  have h := formula_of_valid_numbers hvalid hparse rfl hnames henv
  exact ⟨hvalid, h.1, h.2 "width" (Expr.mem_variableNames.mpr (by decide))⟩

end AppDef
