import AppDef.Proofs.Provenance

namespace AppDef

variable {env scope : Environment} {s : Section} {state : SectionState} {mode : VisibilityMode}
  {views : List SectionView} {d : Document} {i : Nat}

/-- The section is a result with a guard that is written, but is no expression. -/
def Section.HasBrokenGuard (s : Section) : Prop :=
  ∃ part guard e, s = .result part ∧ part.showIf = some guard ∧ Text.allBlank guard = false ∧
    Expr.parse guard = .error e

theorem exists_guardHolds_eq_error_iff {guard? : Option String} :
    (∃ e, guardHolds guard? scope = .error e) ↔ ∃ guard e, guard? = some guard ∧
      Text.allBlank guard = false ∧ Expr.parse guard = .error e := by
  cases guard? with
  | none => simp [guardHolds]
  | some guard =>
    cases hblank : Text.allBlank guard with
    | true => simp [guardHolds, hblank]
    | false => simp [guardHolds, hblank, evaluateGuard, except_bind_eq_error]

/-- Whether a section is to be seen, as its guard has it. -/
def Section.isWanted (s : Section) (scope : Environment) : Except ExprError Bool :=
  match s with
  | .result part => guardHolds part.showIf scope
  | _ => .ok true

theorem Section.isWanted_of_ne_result (h : s.kind ≠ .result) : s.isWanted scope = .ok true := by
  cases s with
  | result part => exact absurd rfl h
  | text part | form part | calculator part | wizard part => rfl

theorem Section.exists_isWanted_eq_error_iff :
    (∃ e, s.isWanted scope = .error e) ↔ s.HasBrokenGuard := by
  cases s with
  | text part | form part | calculator part | wizard part =>
    simp [isWanted, HasBrokenGuard]
  | result part => simp [isWanted, HasBrokenGuard, exists_guardHolds_eq_error_iff]

/-- A section is visible as its guard has it, and as the mode has it where the guard fails. -/
theorem Section.isVisible_of_evaluate (h : s.evaluate scope = .ok state) (mode : VisibilityMode) :
    state.isVisible mode = match s.isWanted scope with
      | .ok wanted => wanted
      | .error _ => mode = .visible := by
  cases s with
  | text part | form part | wizard part =>
    cases h
    rfl
  | calculator part =>
    -- whatever its formula comes to
    obtain ⟨outcome, _, rfl⟩ := except_map_eq_ok.mp h
    rfl
  | result part =>
    rcases ResultSection.state_of_evaluate h with
      ⟨e, hg, rfl⟩ | ⟨hg, rfl⟩ | ⟨hg, text, rfl⟩ <;> simp only [isWanted, hg] <;> rfl

/-- The rendering leaves out what the map leaves out that takes nothing for granted. -/
theorem RenderedSection.isVisible_eq (r : RenderedSection) :
    r.isVisible = r.view.state.isVisible .hidden := by
  unfold isVisible
  cases r.view.state <;> rfl

theorem visibility_eq_of_evaluate (h : d.evaluate env = .ok views) (mode : VisibilityMode) :
    d.visibility env mode =
      .ok (views.map fun view => (view.index, view.state.isVisible mode)) := by
  simp only [Document.visibility, h]
  rfl

theorem index_of_evaluateFrom {start : Nat} {sections : List Section}
    (h : evaluateFrom start env sections = .ok views) :
    views.map (·.index) = List.range' start sections.length := by
  induction sections generalizing start env views with
  | nil =>
    cases h
    rfl
  | cons s sections ih =>
    obtain ⟨state, rest, _, hrest, rfl⟩ := evaluateFrom_cons_eq_ok.mp h
    rw [List.map_cons, ih hrest]
    rfl

/-- A view is found under its place. -/
theorem lookup_of_evaluateFrom {start : Nat} {sections : List Section} (f : SectionView → Bool)
    (h : evaluateFrom start env sections = .ok views) :
    (views.map fun view => (view.index, f view)).lookup (start + i) = views[i]?.map f := by
  induction sections generalizing start env views i with
  | nil =>
    cases h
    rfl
  | cons s sections ih =>
    obtain ⟨state, rest, _, hrest, rfl⟩ := evaluateFrom_cons_eq_ok.mp h
    cases i with
    | zero => simp
    | succ i =>
      have hne : (start + (i + 1) == start) = false := by simp
      have hplace : start + (i + 1) = start + 1 + i := by omega
      rw [List.map_cons, List.lookup_cons, hne, hplace]
      simpa using ih hrest

/-- What the two maps say of a section is decided by its guard. -/
theorem Section.isVisible_modes (h : s.evaluate scope = .ok state) :
    (state.isVisible .visible ≠ state.isVisible .hidden ↔ s.HasBrokenGuard) ∧
      (s.HasBrokenGuard → state.isVisible .visible = true ∧ state.isVisible .hidden = false) ∧
      ∀ wanted, s.isWanted scope = .ok wanted →
        state.isVisible .visible = wanted ∧ state.isVisible .hidden = wanted := by
  rw [isVisible_of_evaluate h, isVisible_of_evaluate h, ← exists_isWanted_eq_error_iff]
  cases s.isWanted scope with
  | ok wanted => simp
  | error e => simp

namespace Document

/-- A rendered document has the views of its sections. -/
theorem views_of_render {values : Values} {r : Rendering} (h : d.render values = .ok r) :
    d.evaluate (d.environment values) = .ok (r.sections.map (·.view)) := by
  rw [render_eq] at h
  obtain ⟨views, hviews, rfl⟩ := except_map_eq_ok.mp h
  rw [views_layout d _ (length_of_evaluateFrom hviews), hviews]

theorem Renders.exists_render (h : d.Renders) (values : Values) :
    ∃ r, d.render values = .ok r := by
  rw [render_eq]
  exact except_map_isOk.mpr (evaluateFrom_of_renders h)

theorem map_fst_visibility (h : d.evaluate env = .ok views) (mode : VisibilityMode) :
    (views.map fun view => (view.index, view.state.isVisible mode)).map (·.1) =
      List.range d.sections.length := by
  rw [List.map_map, List.range_eq_range', ← index_of_evaluateFrom h]
  rfl

/-- Each map has under the place of a section what the section comes to behind those before it. -/
theorem lookup_visibility (h : d.evaluate env = .ok views) (hs : d.sections[i]? = some s) :
    ∃ scope state, Sees env (views.take i) scope ∧ s.evaluate scope = .ok state ∧
      ∀ mode, (views.map fun view => (view.index, view.state.isVisible mode)).lookup i =
        some (state.isVisible mode) := by
  have hfound (mode : VisibilityMode) :=
    lookup_of_evaluateFrom (i := i) (fun view => view.state.isVisible mode) h
  rw [Nat.zero_add] at hfound
  obtain ⟨front, state, back, hfront, hstate, _, rfl⟩ := (evaluate_eq_ok_at hs).mp h
  have hlength := length_of_front hs hfront
  refine ⟨env.withResult (lastValue? front), state, ?_, hstate, fun mode => ?_⟩
  · rw [← hlength, List.take_left]
    exact sees_withResult
  · rw [hfound]
    simp [← hlength]

/-- A document is rendered with the sections that the map has which takes nothing for granted, and
both maps have all sections and no others. They differ at the results whose guard is no expression,
and else have a section as its guard has it, behind the sections before it. So a section that is
no result is visible whatever its formula comes to. -/
theorem visibility_agrees (d : Document) (values : Values) :
    let env := d.environment values
    (d.Renders → ∃ r, d.render values = .ok r) ∧
      ∀ r, d.render values = .ok r → ∃ shown hidden,
        d.visibility env .visible = .ok shown ∧ d.visibility env .hidden = .ok hidden ∧
        r.sections.map (fun s => (s.view.index, s.isVisible)) = hidden ∧
        shown.map (·.1) = List.range d.sections.length ∧
        hidden.map (·.1) = List.range d.sections.length ∧
        ∀ i s, d.sections[i]? = some s → ∃ scope inShown inHidden,
          Sees env ((r.sections.map (·.view)).take i) scope ∧
          shown.lookup i = some inShown ∧ hidden.lookup i = some inHidden ∧
          (inShown ≠ inHidden ↔ s.HasBrokenGuard) ∧
          (s.HasBrokenGuard → inShown = true ∧ inHidden = false) ∧
          (∀ wanted, s.isWanted scope = .ok wanted → inShown = wanted ∧ inHidden = wanted) ∧
          (s.kind ≠ .result → inShown = true ∧ inHidden = true) := by
  intro env
  refine ⟨fun h => h.exists_render values, fun r hr => ?_⟩
  have hviews : d.evaluate env = .ok (r.sections.map (·.view)) := views_of_render hr
  refine ⟨_, _, visibility_eq_of_evaluate hviews .visible, visibility_eq_of_evaluate hviews .hidden,
    ?_, map_fst_visibility hviews .visible, map_fst_visibility hviews .hidden, fun i s hs => ?_⟩
  · rw [List.map_map]
    exact List.map_congr_left fun s _ => congrArg (Prod.mk s.view.index) s.isVisible_eq
  · obtain ⟨scope, state, hsees, hstate, hfound⟩ := lookup_visibility hviews hs
    obtain ⟨hdiffer, hbroken, hwanted⟩ := Section.isVisible_modes hstate
    exact ⟨scope, _, _, hsees, hfound .visible, hfound .hidden, hdiffer, hbroken, hwanted,
      fun hkind => hwanted true (Section.isWanted_of_ne_result hkind)⟩

/-- A calculator whose formula breaks off, a guard that does, and one that asks for an answer. -/
def interest : Document where
  identity := ⟨"Interest", "interest", "Asks whether to call back", none⟩
  sections := [.calculator brokenOff, .result ⟨none, "Thanks", some "(("⟩,
    .result ⟨none, "Thanks", some "interested"⟩]
  crm := none
  settings := none

theorem visibility_agrees_interest :
    interest.Renders ∧ ∃ r, interest.render {} = .ok r ∧ ∃ shown hidden,
      interest.visibility (interest.environment {}) .visible = .ok shown ∧
      interest.visibility (interest.environment {}) .hidden = .ok hidden ∧
      r.sections.map (fun s => (s.view.index, s.isVisible)) = hidden ∧
      shown.lookup 0 = some true ∧ hidden.lookup 0 = some true ∧
      shown.lookup 1 = some true ∧ hidden.lookup 1 = some false := by
  have hrenders : interest.Renders := by
    have hparse : Template.parse "Thanks".toList = some [.text "Thanks"] := by cbv
    intro s hs template ht env
    simp only [interest, List.mem_cons, List.not_mem_nil, or_false] at hs
    rcases hs with rfl | rfl | rfl
    · cases ht
    all_goals
      cases List.mem_singleton.mp ht
      simp only [interpolate, hparse]
      exact ⟨_, rfl⟩
  have hbroken : Section.HasBrokenGuard (.result ⟨none, "Thanks", some "(("⟩) := by
    have hparse : Expr.parse "((" = .error (.malformed 2 .unexpectedEnd) := by cbv
    exact ⟨_, "((", _, rfl, rfl, by decide, hparse⟩
  obtain ⟨hrender, hagree⟩ := visibility_agrees interest {}
  obtain ⟨r, hr⟩ := hrender hrenders
  obtain ⟨shown, hidden, hshown, hhidden, hsame, -, -, hsections⟩ := hagree r hr
  obtain ⟨_, a, b, -, ha, hb, -, -, -, hplain⟩ := hsections 0 (.calculator brokenOff) rfl
  obtain ⟨rfl, rfl⟩ := hplain (by decide)
  obtain ⟨_, a', b', -, ha', hb', -, htold, -⟩ := hsections 1 _ rfl
  obtain ⟨rfl, rfl⟩ := htold hbroken
  exact ⟨hrenders, r, hr, shown, hidden, hshown, hhidden, hsame, ha, hb, ha', hb'⟩

end Document

end AppDef
