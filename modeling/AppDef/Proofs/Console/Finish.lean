import AppDef.Proofs.Console.Capture

namespace AppDef

variable {fields : List Field} {values values' : Values}

/-- A check of fields looks at the values under their names only. -/
theorem validate_congr (h : ∀ f ∈ fields, values'.get? f.name = values.get? f.name) :
    validate fields values' = validate fields values := by
  unfold validate
  congr 1
  · exact List.filterMap_congr fun f hf => by rw [h f hf]
  · exact congrArg (List.map _) (List.filter_congr fun f hf => by rw [h f hf])

/-- No field of the one list has the name of a field of the other. -/
def Apart (fields others : List Field) : Prop :=
  ∀ f ∈ fields, ∀ g ∈ others, f.name ≠ g.name

/-- Fields of different parts are apart where no two fields have one name. -/
theorem pairwise_apart {α : Type} {fieldsOf : α → List Field} {parts : List α}
    (h : ((parts.flatMap fieldsOf).map (·.name)).Nodup) :
    (∀ part ∈ parts, ((fieldsOf part).map (·.name)).Nodup) ∧
      parts.Pairwise fun a b => Apart (fieldsOf a) (fieldsOf b) := by
  rw [List.map_flatMap, List.nodup_flatMap] at h
  refine ⟨h.1, h.2.imp ?_⟩
  intro a b hdisjoint f hf g hg he
  exact hdisjoint (List.mem_map_of_mem hf) (he ▸ List.mem_map_of_mem hg)

/-- All steps of the section, if it is a wizard, take the values. -/
def Section.StepsTake (piece : Section) (values : Values) : Prop :=
  ∀ w, piece = .wizard w → ∀ step ∈ w.steps, (validate step.fields values).valid = true

namespace Walk

variable {α β : Type} {verbose : Bool} {d : Document} {others : List Field} {s s' : Session}

theorem bind_eq_ok {x : Walk α} {g : α → Walk β} {b : β} :
    (x >>= g) s = (.ok b, s') ↔ ∃ a t, x s = (.ok a, t) ∧ g a t = (.ok b, s') := by
  rcases hx : x s with ⟨e | a, t⟩
  · rw [bind_of_error hx]
    exact iff_of_false (fun h => by cases h) fun ⟨_, _, ht, _⟩ => by cases ht
  · rw [bind_of_ok hx]
    exact ⟨fun h => ⟨a, t, rfl, h⟩, fun ⟨_, _, ht, h⟩ => by cases ht; exact h⟩

/-- What is asked for under other names does not change what a check finds. -/
theorem Acts.validate_eq (h : Acts verbose others s s') (hapart : Apart fields others) :
    validate fields s'.values = validate fields s.values :=
  validate_congr fun f hf => h.get?_of_ne fun g hg => (hapart f hf g hg).symm

section Wizard

variable {w : WizardSection} {state state' : WizardState} {fuel : Nat}

/-- All that a turn can be, with the acts that make it. -/
inductive Turned (verbose : Bool) (w : WizardSection) :
    WizardState → Session → Option WizardState → Session → Prop
  | back {i : Nat} {step : WizardStep} {s s' : Session} (hstep : w.steps[i]? = some step)
      (hacts : Acts verbose step.fields s s') :
      Turned verbose w (.step i) s (some (WizardState.step i).back) s'
  | passed {i : Nat} {step : WizardStep} {s s' : Session} (hstep : w.steps[i]? = some step)
      (hacts : Acts verbose step.fields s s')
      (hvalid : (validate step.fields s'.values).valid = true) :
      Turned verbose w (.step i) s (some (w.after i)) s'
  | refused {i : Nat} {step : WizardStep} {s s' : Session} (hstep : w.steps[i]? = some step)
      (hacts : Acts verbose step.fields s s') :
      Turned verbose w (.step i) s (some (.step i)) s'
  | done {state : WizardState} {s : Session} (h : w.stepAt? state = none) :
      Turned verbose w state s none s

theorem turned_of_visit {next : Option WizardState}
    (h : visit verbose w state s = (.ok next, s')) : Turned verbose w state s next s' := by
  unfold visit at h
  cases hat : w.stepAt? state with
  | none =>
    rw [hat] at h
    cases h
    exact .done hat
  | some step =>
    obtain ⟨i, rfl, hstep⟩ := WizardSection.stepAt?_eq_some_iff.mp hat
    simp only [hat] at h
    obtain ⟨_, s₁, hsaid, h⟩ := bind_eq_ok.mp h
    obtain ⟨flow, s₂, hasked, h⟩ := bind_eq_ok.mp h
    have hacts : Acts verbose step.fields s s₂ := by
      have hstepActs : ActsOn verbose step.fields (askStep verbose step.fields) :=
        actsOn_askStep fun _ hf => hf
      have hon := hstepActs.acts s₁
      rw [hasked] at hon
      cases hsaid
      exact .head (.said _) hon
    cases flow with
    | back =>
      cases h
      exact .back hstep hacts
    | next =>
      obtain ⟨now, s₃, hnow, h⟩ := bind_eq_ok.mp h
      cases hnow
      cases hvalid : (validate step.fields s₂.values).valid with
      | true =>
        simp only [WizardSection.next_of_valid hstep hvalid] at h
        cases h
        exact .passed hstep hacts hvalid
      | false =>
        simp only [WizardSection.next_of_invalid hstep hvalid] at h
        obtain ⟨_, s₄, htold, h⟩ := bind_eq_ok.mp h
        cases htold
        cases h
        exact .refused hstep (hacts.tail (.said _))

/-- The values are valid for every step that the wizard has behind it. -/
def ValidBehind (w : WizardSection) (state : WizardState) (values : Values) : Prop :=
  ∀ (j : Nat) (step : WizardStep), w.steps[j]? = some step → j < w.position state →
    (validate step.fields values).valid = true

/-- The steps behind the wizard are kept valid while it asks for the fields of its own. -/
theorem ValidBehind.acts {i : Nat} {step : WizardStep} (h : ValidBehind w (.step i) s.values)
    (hw : w.steps.Pairwise fun a b => Apart a.fields b.fields) (hstep : w.steps[i]? = some step)
    (hacts : Acts verbose step.fields s s') : ValidBehind w (.step i) s'.values := by
  intro j earlier hj hlt
  have hapart : Apart earlier.fields step.fields := by
    obtain ⟨hjlt, rfl⟩ := List.getElem?_eq_some_iff.mp hj
    obtain ⟨hilt, rfl⟩ := List.getElem?_eq_some_iff.mp hstep
    exact List.pairwise_iff_getElem.mp hw j i hjlt hilt hlt
  rw [hacts.validate_eq hapart]
  exact h j earlier hj hlt

/-- A wizard is taken on by a turn only if the step that it leaves is valid. -/
theorem ValidBehind.turned (h : ValidBehind w state s.values)
    (hw : w.steps.Pairwise fun a b => Apart a.fields b.fields)
    (ht : Turned verbose w state s (some state') s') : ValidBehind w state' s'.values := by
  cases ht with
  | @back i step _ _ hstep hacts =>
    have hkept := h.acts hw hstep hacts
    cases i with
    | zero => exact hkept
    | succ i => exact fun j earlier hj hlt => hkept j earlier hj (Nat.lt_succ_of_lt hlt)
  | refused hstep hacts => exact h.acts hw hstep hacts
  | @passed i step _ _ hstep hacts hvalid =>
    have hkept := h.acts hw hstep hacts
    intro j earlier hj hlt
    obtain ⟨hi, -⟩ := List.getElem?_eq_some_iff.mp hstep
    rw [WizardSection.position_after hi] at hlt
    rcases Nat.lt_succ_iff_lt_or_eq.mp hlt with hless | rfl
    · exact hkept j earlier hj hless
    · rw [hstep] at hj
      cases hj
      exact hvalid

/-- A wizard stands at none of its steps only with all of them behind it. -/
theorem ValidBehind.all (h : ValidBehind w state s.values) (hat : w.stepAt? state = none) :
    ∀ step ∈ w.steps, (validate step.fields s.values).valid = true := by
  intro step hstep
  obtain ⟨j, hj, rfl⟩ := List.getElem_of_mem hstep
  refine h j _ (List.getElem?_eq_getElem hj) ?_
  cases state with
  | step i => exact Nat.lt_of_lt_of_le hj (List.getElem?_eq_none_iff.mp hat)
  | completed => exact hj

theorem valid_of_steps (hw : w.steps.Pairwise fun a b => Apart a.fields b.fields)
    (hbehind : ValidBehind w state s.values) (h : steps verbose w fuel state s = (.ok (), s')) :
    ∀ step ∈ w.steps, (validate step.fields s'.values).valid = true := by
  induction fuel generalizing state s with
  | zero => cases h
  | succ fuel ih =>
    rw [steps_succ] at h
    obtain ⟨next, t, hvisit, h⟩ := bind_eq_ok.mp h
    have hturned := turned_of_visit hvisit
    cases next with
    | none =>
      cases h
      cases hturned with
      | done hat => exact hbehind.all hat
    | some state => exact ih (hbehind.turned hw hturned) h

theorem valid_of_wizard (hw : w.steps.Pairwise fun a b => Apart a.fields b.fields)
    (h : wizard verbose w s = (.ok (), s')) :
    ∀ step ∈ w.steps, (validate step.fields s'.values).valid = true := by
  refine valid_of_steps hw ?_ h
  intro j step _ hlt
  rw [WizardSection.position_initial] at hlt
  exact absurd hlt (Nat.not_lt_zero j)

end Wizard

theorem stepsTake_of_part {index : Nat} {piece : Section} (hp : (piece.fields.map (·.name)).Nodup)
    (h : part verbose d index piece s = (.ok (), s')) : piece.StepsTake s'.values := by
  rintro w rfl
  obtain ⟨_, s₁, hsaid, h⟩ := bind_eq_ok.mp h
  exact valid_of_wizard (pairwise_apart hp).2 h

theorem stepsTake_of_parts {parts : List (Section × Nat)}
    (hp : ((parts.flatMap (·.1.fields)).map (·.name)).Nodup)
    (h : (parts.forM fun p => part verbose d p.2 p.1) s = (.ok (), s')) :
    ∀ p ∈ parts, p.1.StepsTake s'.values := by
  induction parts generalizing s with
  | nil =>
    intro p hp
    cases hp
  | cons p parts ih =>
    obtain ⟨hnodup, hpairs⟩ := pairwise_apart hp
    obtain ⟨hapart, -⟩ := List.pairwise_cons.mp hpairs
    obtain ⟨_, t, hpart, hrest⟩ := bind_eq_ok.mp h
    have hacts : Acts verbose (parts.flatMap (·.1.fields)) t s' := by
      have hon : ActsOn verbose (parts.flatMap (·.1.fields))
          (parts.forM fun p => part verbose d p.2 p.1) :=
        actsOn_forM fun p hp => actsOn_part fun f hf => List.mem_flatMap.mpr ⟨p, hp, hf⟩
      have hlast := hon.acts t
      rwa [hrest] at hlast
    have hhead : p.1.StepsTake s'.values := by
      intro w hw step hstep
      have hothers : Apart step.fields (parts.flatMap (·.1.fields)) := by
        intro f hf g hg
        obtain ⟨q, hq, hg⟩ := List.mem_flatMap.mp hg
        refine hapart q hq f ?_ g hg
        rw [hw]
        exact List.mem_flatMap.mpr ⟨step, hstep, hf⟩
      rw [hacts.validate_eq hothers]
      exact stepsTake_of_part (hnodup p List.mem_cons_self) hpart w hw step hstep
    refine List.forall_mem_cons.mpr ⟨hhead, ih ?_ hrest⟩
    rw [List.flatMap_cons, List.map_append] at hp
    exact (List.nodup_append.mp hp).2.1

/-- Whatever is typed, once a walk has come to the end of a document in which no two fields have one
name, the values that it has captured are valid for every step of every wizard. -/
theorem finished_steps_valid (hd : (d.fields.map (·.name)).Nodup)
    (h : run verbose d s = (.ok (), s')) : ∀ w, .wizard w ∈ d.sections →
      ∀ step ∈ w.steps, (validate step.fields s'.values).valid = true := by
  intro w hw
  obtain ⟨_, t, _, h⟩ := bind_eq_ok.mp h
  have hparts : ((d.sections.zipIdx.flatMap (·.1.fields)).map (·.name)).Nodup := by
    rw [← List.flatMap_map Prod.fst, List.zipIdx_map_fst]
    exact hd
  obtain ⟨i, hi⟩ : ∃ i, (.wizard w, i) ∈ d.sections.zipIdx := by
    obtain ⟨i, hi, he⟩ := List.getElem_of_mem hw
    exact ⟨i, List.mem_zipIdx_iff_getElem?.mpr (by rw [List.getElem?_eq_getElem hi, he])⟩
  exact stepsTake_of_parts hparts h _ hi w rfl

/-- A wizard of two steps, of which the second one may be skipped. -/
def intake : Document where
  identity := ⟨"Intake", "intake", "Asks for a name and a budget", none⟩
  sections := [.wizard ⟨none, [
    ⟨"Name", none, [⟨"name", "Name", .text, none, true, [], none, none, {}⟩]⟩,
    ⟨"Budget", none, [⟨"budget", "Budget", .number, none, false, [], none, none, {}⟩]⟩]⟩]
  crm := none
  settings := none

theorem finished_steps_valid_intake : ∃ s' w,
    run false intake ⟨["\n", "Jo\n", ":back\n", "\n", "lots\n", "7\n"], {}, []⟩ = (.ok (), s') ∧
      .wizard w ∈ intake.sections ∧
      ∀ step ∈ w.steps, (validate step.fields s'.values).valid = true := by
  have hrun : run false intake ⟨["\n", "Jo\n", ":back\n", "\n", "lots\n", "7\n"], {}, []⟩ =
      (.ok (), _) := rfl
  exact ⟨_, _, hrun, List.mem_cons_self,
    finished_steps_valid (by decide) hrun _ List.mem_cons_self⟩

end Walk

end AppDef
