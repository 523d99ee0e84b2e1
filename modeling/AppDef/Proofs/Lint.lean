import AppDef.Lint
import AppDef.Proofs.Evaluation
import AppDef.Proofs.Expr.Evaluation
import AppDef.Proofs.Expr.Refusal
import AppDef.Proofs.Text

namespace AppDef

/-- The error lies in what is written, whatever it is evaluated in. -/
def ExprError.isStatic : ExprError → Bool
  | .malformed _ _ | .unknownFunction _ | .arity _ _ => true
  | .unknownVariable _ | .notNumeric _ | .notFinite => false

namespace Section

/-- The formula or the guard of a section. A blank guard is none. -/
def logic? : Section → Option String
  | .calculator s => some s.formula
  | .result s => s.showIf.filter (!Text.allBlank ·)
  | _ => none

/-- Where the issues of the formula or of the guard of the section at `i` are reported. -/
def logicLocation? (i : Nat) : Section → Option String
  | .calculator _ => some (s!"sections[{i}]" ++ ".formula")
  | .result _ => some (s!"sections[{i}]" ++ ".showIf")
  | _ => none

end Section

variable {d : Document} {s : Section} {env scope : Environment} {state : SectionState}
  {e : ExprError} {i : Nat} {location source m : String} {declared : List String}

/-- A section fails on what its formula or its guard fails on. -/
theorem Section.error?_eq_some_iff (hs : s.evaluate scope = .ok state) :
    state.error? = some e ↔ ∃ source, s.logic? = some source ∧
      (Expr.parse source = .error e ∨ (∃ part, s = .calculator part) ∧
        ∃ x, Expr.parse source = .ok x ∧ x.evalNumber scope = .error e) := by
  cases s with
  | text part | form part | wizard part =>
    cases hs
    simp [SectionState.error?, logic?]
  | calculator part =>
    obtain ⟨outcome, ho, rfl⟩ := except_map_eq_ok.mp hs
    have hvalue : outcome.map (·.value) = evaluateFormula part.formula scope :=
      CalculatorSection.value_of_evaluate ho
    have herror : (SectionState.calculator outcome).error? = some e ↔
        evaluateFormula part.formula scope = .error e := by
      rw [← hvalue]
      cases outcome <;> simp [SectionState.error?, Except.map]
    rw [herror, evaluateFormula, except_bind_eq_error]
    simp [logic?]
  | result part =>
    have herror : state.error? = some e ↔ guardHolds part.showIf scope = .error e := by
      rcases ResultSection.state_of_evaluate hs with
        ⟨e', hg, rfl⟩ | ⟨hg, rfl⟩ | ⟨hg, text, rfl⟩ <;> simp [SectionState.error?, hg]
    rw [herror]
    cases hshow : part.showIf with
    | none => simp [guardHolds, logic?, hshow]
    | some guard =>
      cases hblank : Text.allBlank guard <;>
        simp [guardHolds, logic?, hshow, hblank, evaluateGuard, except_bind_eq_error]

/-- What is wrong with a text that is no expression lies in the text. -/
theorem isStatic_of_parse (h : Expr.parse source = .error e) : e.isStatic = true := by
  cases Expr.refuses_of_parse_error h <;> rfl

/-- No expression fails in evaluation for what is written in it. -/
theorem not_isStatic_of_evalNumber {x : Expr} (hparse : Expr.parse source = .ok x)
    (h : x.evalNumber env = .error e) : e.isStatic = false := by
  rcases Expr.error_of_evalNumber (Expr.applied_of_parse hparse) h with rfl | hstuck
  · rfl
  · cases hstuck <;> rfl

theorem Section.fails_isStatic_iff (hs : s.evaluate scope = .ok state) :
    state.error? = some e ∧ e.isStatic = true ↔
      ∃ source, s.logic? = some source ∧ Expr.parse source = .error e := by
  rw [error?_eq_some_iff hs]
  constructor
  · rintro ⟨⟨source, hsource, hparse | ⟨_, x, hparse, hvalue⟩⟩, hstatic⟩
    · exact ⟨source, hsource, hparse⟩
    · rw [not_isStatic_of_evalNumber hparse hvalue] at hstatic
      cases hstatic
  · rintro ⟨source, hsource, hparse⟩
    exact ⟨⟨source, hsource, .inl hparse⟩, isStatic_of_parse hparse⟩

/-- Where all of its names are bound, an expression fails only for the kind or the size of a
number. -/
theorem Section.fails_of_bound (hs : s.evaluate scope = .ok state)
    (hlogic : ∀ source, s.logic? = some source → ∃ x, Expr.parse source = .ok x ∧
      ∀ name ∈ x.mentions, ∃ v, scope.get? name = some v)
    (he : state.error? = some e) : e = .notFinite ∨ ∃ operand, e = .notNumeric operand := by
  obtain ⟨source, hsource, hfails⟩ := (error?_eq_some_iff hs).mp he
  obtain ⟨x, hparse, hbound⟩ := hlogic source hsource
  rw [hparse] at hfails
  rcases hfails with hfails | ⟨_, x', hx, hvalue⟩
  · cases hfails
  · cases hx
    rcases Expr.error_of_evalNumber (Expr.applied_of_parse hparse) hvalue with rfl | hstuck
    · exact .inl rfl
    · exact .inr (hstuck.of_bound hbound).2

/-- The issues that are about formulas and guards. -/
def LintCode.isOfLogic : LintCode → Bool
  | .invalidExpression | .undeclaredVariable => true
  | _ => false

namespace Lint

variable {issue : LintIssue}

theorem isOfLogic_of_mem_field {seen : List String} {f : Field}
    (h : issue ∈ field location seen f) : issue.code.isOfLogic = false := by
  simp only [field, List.flatten_cons, List.flatten_nil, List.append_nil, List.mem_append] at h
  rcases h with h | h | h | h <;> grind [pattern, LintCode.isOfLogic]

theorem isOfLogic_of_mem_fieldsFrom {base : String} {seen : List String} {fields : List Field}
    (h : issue ∈ fieldsFrom base seen fields) : issue.code.isOfLogic = false := by
  induction fields generalizing seen with
  | nil => cases h
  | cons f fields ih =>
    rcases List.mem_append.mp h with hf | hrest
    · exact isOfLogic_of_mem_field hf
    · exact ih hrest

theorem not_isOfLogic_of_mem_mapping {crm : Crm} (h : issue ∈ mapping declared crm) :
    issue.code.isOfLogic = false := by
  obtain ⟨entry, _, rfl⟩ := List.mem_map.mp h
  rfl

/-- The formula or the guard of a section is looked at, and nothing where it has none. -/
theorem mem_logic_iff : issue ∈ logic s!"sections[{i}]" declared s ↔
    ∃ location source, s.logicLocation? i = some location ∧ s.logic? = some source ∧
      issue ∈ expression location source declared := by
  cases s with
  | text part | form part | wizard part => simp [logic, Section.logicLocation?]
  | calculator part => simp [logic, Section.logicLocation?, Section.logic?]
  | result part =>
    cases hshow : part.showIf with
    | none => simp [logic, Section.logic?, hshow]
    | some guard =>
      cases hblank : Text.allBlank guard <;>
        simp [logic, Section.logicLocation?, Section.logic?, hshow, hblank]

theorem location_of_mem_expression (h : issue ∈ expression location source declared) :
    issue.location = location := by
  unfold expression at h
  split at h
  · rw [List.mem_singleton.mp h]
  · obtain ⟨name, _, rfl⟩ := List.mem_map.mp h
    rfl

theorem invalid_mem_expression_iff :
    ⟨location, .invalidExpression, m⟩ ∈ expression location source declared ↔
      ∃ e, Expr.parse source = .error e ∧ e.message = m := by
  unfold expression
  cases Expr.parse source <;> simp [eq_comm (a := m)]

/-- Each name of an expression about which nothing is reported is declared. -/
theorem declared_of_expression {x : Expr} (hparse : Expr.parse source = .ok x)
    (h : ∀ m, ⟨location, .undeclaredVariable, m⟩ ∉ expression location source declared) :
    ∀ name ∈ x.mentions, name ∈ declared := by
  intro name hname
  by_contra hundeclared
  refine h ("'" ++ name ++ "' is not the name of any field") ?_
  simp only [expression, hparse]
  exact List.mem_map.mpr ⟨name, by simp [Expr.mem_variableNames, hname, hundeclared], rfl⟩

end Lint

/-- No two sections share the place of their formula or guard. -/
theorem Section.index_of_logicLocation {s' : Section} {j : Nat}
    (h : s.logicLocation? i = some location) (h' : s'.logicLocation? j = some location) :
    i = j := by
  have hbase {tail : String}
      (heq : s!"sections[{i}]" ++ tail = s!"sections[{j}]" ++ tail) : i = j := by
    simp only [String.append_left_inj, String.append_right_inj] at heq
    exact Text.number_inj (congrArg String.toList heq)
  have htail {k l : Nat} (heq : s!"sections[{k}]" ++ ".formula" = s!"sections[{l}]" ++ ".showIf") :
      False := by
    have hlast := congrArg (·.toList.getLast?) heq
    have ha : ".formula".toList.getLast? = some 'a' := rfl
    have hf : ".showIf".toList.getLast? = some 'f' := rfl
    simp only [String.toList_append, List.getLast?_append, ha, hf, Option.some_or] at hlast
    exact absurd hlast (by decide)
  cases s <;> cases s' <;> simp only [logicLocation?, reduceCtorEq, Option.some.injEq] at h h'
  · exact hbase (h.trans h'.symm)
  · exact (htail (h.trans h'.symm)).elim
  · exact (htail (h'.trans h.symm)).elim
  · exact hbase (h.trans h'.symm)

/-- What is reported at the place of a formula or guard is reported of that formula or guard. -/
theorem Document.mem_lint_iff (code : LintCode) (hs : d.sections[i]? = some s)
    (hl : s.logicLocation? i = some location) (hcode : code.isOfLogic = true) :
    ⟨location, code, m⟩ ∈ d.lint ↔ ∃ source, s.logic? = some source ∧
      ⟨location, code, m⟩ ∈ Lint.expression location source d.declaredNames := by
  simp only [lint, List.mem_append, List.mem_flatMap, Lint.part]
  constructor
  · rintro (⟨⟨s', j⟩, hs', hfield | hlogic⟩ | ⟨crm, _, hmapping⟩)
    · rw [Lint.isOfLogic_of_mem_fieldsFrom hfield] at hcode
      cases hcode
    · obtain ⟨location', source, hl', hsource, hissue⟩ := Lint.mem_logic_iff.mp hlogic
      cases Lint.location_of_mem_expression hissue
      have hplace : i = j := Section.index_of_logicLocation hl hl'
      subst hplace
      have hget : d.sections[i]? = some s' := List.mem_zipIdx_iff_getElem?.mp hs'
      rw [hs] at hget
      cases hget
      exact ⟨source, hsource, hissue⟩
    · rw [Lint.not_isOfLogic_of_mem_mapping hmapping] at hcode
      cases hcode
  · rintro ⟨source, hsource, hissue⟩
    refine .inl ⟨(s, i), List.mem_zipIdx_iff_getElem?.mpr hs, .inr ?_⟩
    exact Lint.mem_logic_iff.mpr ⟨location, source, hl, hsource, hissue⟩

/-- The view of the section at `i` shows the error. -/
def Document.FailsAt (d : Document) (env : Environment) (i : Nat) (e : ExprError) : Prop :=
  ∃ views view, d.evaluate env = .ok views ∧ views[i]? = some view ∧ view.state.error? = some e

theorem Document.failsAt_isStatic_iff (h : d.Renders) (hs : d.sections[i]? = some s) :
    d.FailsAt env i e ∧ e.isStatic = true ↔
      ∃ source, s.logic? = some source ∧ Expr.parse source = .error e := by
  obtain ⟨views, view, x?, hviews, hview, hstate⟩ := h.viewed_at hs env
  rw [← Section.fails_isStatic_iff hstate]
  refine and_congr_left fun _ => ⟨?_, fun he => ⟨views, view, hviews, hview, he⟩⟩
  rintro ⟨views', view', hviews', hview', he⟩
  rw [hviews] at hviews'
  cases hviews'
  rw [hview] at hview'
  cases hview'
  exact he

theorem Document.invalid_mem_lint_iff (hs : d.sections[i]? = some s)
    (hl : s.logicLocation? i = some location) :
    ⟨location, .invalidExpression, m⟩ ∈ d.lint ↔
      ∃ e, (∃ source, s.logic? = some source ∧ Expr.parse source = .error e) ∧ e.message = m := by
  simp only [mem_lint_iff .invalidExpression hs hl rfl, Lint.invalid_mem_expression_iff]
  constructor
  · rintro ⟨source, hsource, e, hparse, hm⟩
    exact ⟨e, ⟨source, hsource, hparse⟩, hm⟩
  · rintro ⟨e, ⟨source, hsource, hparse⟩, hm⟩
    exact ⟨source, hsource, e, hparse, hm⟩

/-- A formula or guard is reported to be no expression exactly when its section fails for what is
written in every environment, or in any, and then the report is the error. If it is not reported
and neither is any name in it, then with all declared names bound it fails only for the kind or
the size of numbers. -/
theorem Document.lint_agrees_with_evaluation (h : d.Renders) (hs : d.sections[i]? = some s)
    (hl : s.logicLocation? i = some location) :
    ((∃ m, ⟨location, .invalidExpression, m⟩ ∈ d.lint) ↔
      ∀ env, ∃ e, d.FailsAt env i e ∧ e.isStatic = true) ∧
    ((∃ m, ⟨location, .invalidExpression, m⟩ ∈ d.lint) ↔
      ∃ env e, d.FailsAt env i e ∧ e.isStatic = true) ∧
    (∀ m, ⟨location, .invalidExpression, m⟩ ∈ d.lint →
      ∀ env, ∃ e, d.FailsAt env i e ∧ e.isStatic = true ∧ e.message = m) ∧
    ((∀ m, ⟨location, .invalidExpression, m⟩ ∉ d.lint ∧
        ⟨location, .undeclaredVariable, m⟩ ∉ d.lint) →
      ∀ env : Environment, (∀ name ∈ d.declaredNames, ∃ v, env.get? name = some v) →
        ∃ views view, d.evaluate env = .ok views ∧ views[i]? = some view ∧
          ∀ e, view.state.error? = some e → e = .notFinite ∨ ∃ operand, e = .notNumeric operand) := by
  have hreport (m : String) (hm : ⟨location, .invalidExpression, m⟩ ∈ d.lint)
      (env : Environment) : ∃ e, d.FailsAt env i e ∧ e.isStatic = true ∧ e.message = m := by
    obtain ⟨e, hparse, hmessage⟩ := (invalid_mem_lint_iff hs hl).mp hm
    obtain ⟨hfails, hstatic⟩ := (failsAt_isStatic_iff h hs).mpr hparse
    exact ⟨e, hfails, hstatic, hmessage⟩
  have hevery (hm : ∃ m, ⟨location, .invalidExpression, m⟩ ∈ d.lint) (env : Environment) :
      ∃ e, d.FailsAt env i e ∧ e.isStatic = true := by
    obtain ⟨m, hm⟩ := hm
    obtain ⟨e, hfails, hstatic, _⟩ := hreport m hm env
    exact ⟨e, hfails, hstatic⟩
  have hany (hfails : ∃ env e, d.FailsAt env i e ∧ e.isStatic = true) :
      ∃ m, ⟨location, .invalidExpression, m⟩ ∈ d.lint := by
    obtain ⟨env, e, hfails⟩ := hfails
    exact ⟨e.message, (invalid_mem_lint_iff hs hl).mpr
      ⟨e, (failsAt_isStatic_iff h hs).mp hfails, rfl⟩⟩
  refine ⟨⟨hevery, fun hfails => hany ⟨{}, hfails {}⟩⟩, ⟨fun hm => ⟨{}, hevery hm {}⟩, hany⟩,
    hreport, ?_⟩
  intro hclean env hbound
  obtain ⟨views, view, x?, hviews, hview, hstate⟩ := h.viewed_at hs env
  refine ⟨views, view, hviews, hview, fun e he => Section.fails_of_bound hstate ?_ he⟩
  intro source hsource
  cases hparse : Expr.parse source with
  | error e' =>
    exact absurd ((invalid_mem_lint_iff hs hl).mpr ⟨e', ⟨source, hsource, hparse⟩, rfl⟩)
      (hclean e'.message).1
  | ok x =>
    have hdeclared := Lint.declared_of_expression hparse fun m hm =>
      (hclean m).2 ((mem_lint_iff .undeclaredVariable hs hl rfl).mpr ⟨source, hsource, hm⟩)
    exact ⟨x, rfl, Environment.bound_withResult x? fun name hm => hbound name (hdeclared name hm)⟩

/-- A formula that breaks off, and one that takes what is known as the result. -/
def square : Document where
  identity := ⟨"Square", "square", "Measures a square", none⟩
  sections := [.calculator brokenOff, .calculator ⟨none, [], "result * result", "Area", none⟩]
  crm := none
  settings := none

theorem lint_agrees_with_evaluation_square :
    square.Renders ∧
    (∀ env, ∃ e, square.FailsAt env 0 e ∧ e.isStatic = true ∧
      e.message = "syntax error at position 8: unexpected end of expression") ∧
    ∃ views view, square.evaluate (Dict.empty.insert "result" (.text "none")) = .ok views ∧
      views[1]? = some view ∧
      ∀ e, view.state.error? = some e → e = .notFinite ∨ ∃ operand, e = .notNumeric operand := by
  have hrenders : square.Renders := by
    intro s hs template ht
    simp only [square, List.mem_cons, List.not_mem_nil, or_false] at hs
    rcases hs with rfl | rfl <;> cases ht
  have hbroken : Expr.parse "length *" = .error (.malformed 8 .unexpectedEnd) := by cbv
  have hproduct : Expr.parse "result * result" = .ok (.binary (.arithmetic .multiply)
      (.variable "result") (.variable "result")) := by cbv
  have hreported : ⟨s!"sections[{0}]" ++ ".formula", .invalidExpression,
      (ExprError.malformed 8 .unexpectedEnd).message⟩ ∈ square.lint :=
    (Document.invalid_mem_lint_iff (i := 0) rfl rfl).mpr ⟨_, ⟨"length *", rfl, hbroken⟩, rfl⟩
  have hclean (m : String) :
      ⟨s!"sections[{1}]" ++ ".formula", .invalidExpression, m⟩ ∉ square.lint ∧
        ⟨s!"sections[{1}]" ++ ".formula", .undeclaredVariable, m⟩ ∉ square.lint := by
    rw [Document.mem_lint_iff .invalidExpression (i := 1) rfl rfl rfl,
      Document.mem_lint_iff .undeclaredVariable (i := 1) rfl rfl rfl]
    have hnone (code : LintCode) (source : String) (hsource : some "result * result" = some source) :
        ⟨s!"sections[{1}]" ++ ".formula", code, m⟩ ∉
          Lint.expression (s!"sections[{1}]" ++ ".formula") source square.declaredNames := by
      cases hsource
      simp [Lint.expression, hproduct, Expr.mem_variableNames, Expr.mentions,
        Document.declaredNames, resultVariable]
    constructor <;>
    · rintro ⟨source, hsource, hm⟩
      exact hnone _ source hsource hm
  obtain ⟨_, _, hreport, _⟩ := Document.lint_agrees_with_evaluation (i := 0) hrenders rfl rfl
  obtain ⟨_, _, _, hbound⟩ := Document.lint_agrees_with_evaluation (i := 1) hrenders rfl rfl
  refine ⟨hrenders, hreport _ hreported, hbound hclean _ ?_⟩
  intro name hname
  have hresult : name = "result" := by
    simpa [Document.declaredNames, Document.fields, square, Section.fields, brokenOff,
      resultVariable] using hname
  exact ⟨.text "none", by rw [hresult]; rfl⟩

end AppDef
