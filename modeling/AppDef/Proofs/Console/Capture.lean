import AppDef.Proofs.Console.Walk
import Mathlib.Logic.Relation

namespace AppDef

/-- The session with more lines to be typed behind its own. -/
def Session.followedBy (s : Session) (more : List String) : Session :=
  { s with lines := s.lines ++ more }

namespace Walk

variable {α β : Type} {verbose inWizard : Bool} {fields : List Field} {f : Field} {s s' m : Session}
  {values values' : Values} {lines more : List String} {line name : String}

/-- The field is asked for: its prompt is what was said last. -/
def AsksFor (verbose : Bool) (f : Field) (s : Session) : Prop :=
  f.kind ≠ .hidden ∧ ∃ before, s.transcript =
    before ++ Transcript.prompt verbose (Prompt.ofField f (s.values.get? f.name))

/-- One act of a walk that asks for the fields. -/
inductive Act (verbose : Bool) (fields : List Field) : Session → Session → Prop
  | said {s : Session} (said : Transcript) :
      Act verbose fields s { s with transcript := s.transcript ++ said }
  | read {s : Session} {line : String} {lines : List String} (hlines : s.lines = line :: lines) :
      Act verbose fields s { s with lines }
  | answered {s : Session} {f : Field} {line : String} {lines : List String} {v : Json}
      (hf : f ∈ fields) (hasked : AsksFor verbose f s) (hlines : s.lines = line :: lines)
      (hread : Answer.read f line = .ok (.value v)) (hcheck : f.check (some v) = none) :
      Act verbose fields s { s with lines, values := s.values.insert f.name v }
  | defaulted {s : Session} {f : Field} {v : Json} (hf : f ∈ fields) (hv : f.defaultValue = some v)
      (hnew : s.values.contains f.name = false) :
      Act verbose fields s { s with values := s.values.insert f.name v }

/-- Any number of acts, one after the other. -/
abbrev Acts (verbose : Bool) (fields : List Field) : Session → Session → Prop :=
  Relation.ReflTransGen (Act verbose fields)

theorem Act.followedBy (h : Act verbose fields s s') (more : List String) :
    Act verbose fields (s.followedBy more) (s'.followedBy more) := by
  cases h with
  | said told => exact .said told
  | read hlines => exact .read (by rw [Session.followedBy, hlines, List.cons_append])
  | answered hf hasked hlines hread hcheck =>
    exact .answered hf hasked (by rw [Session.followedBy, hlines, List.cons_append]) hread hcheck
  | defaulted hf hv hnew => exact .defaulted hf hv hnew

/-- Lines that are typed later are in the way of no act. -/
theorem Acts.followedBy (h : Acts verbose fields s s') (more : List String) :
    Acts verbose fields (s.followedBy more) (s'.followedBy more) :=
  Relation.ReflTransGen.lift (Session.followedBy · more)
    (fun _ _ hact => hact.followedBy more) _ _ h

/-- The walk acts, and it takes the lines as they come: if it ends for want of a line, it goes on
from there with more lines, and if it ends otherwise, it leaves them unread. -/
structure ActsOn (verbose : Bool) (fields : List Field) (x : Walk α) : Prop where
  acts : ∀ s, Acts verbose fields s (x s).2
  resumes : ∀ s s', x s = (.error .inputEnded, s') →
    s'.lines = [] ∧ ∀ more, Acts verbose fields (s'.followedBy more) (x (s.followedBy more)).2
  steady : ∀ s outcome s', x s = (outcome, s') → outcome ≠ .error .inputEnded →
    ∀ more, x (s.followedBy more) = (outcome, s'.followedBy more)

section ActsOn

variable {x : Walk α} {g : α → Walk β}

theorem ActsOn.bind (hx : ActsOn verbose fields x) (hg : ∀ a, ActsOn verbose fields (g a)) :
    ActsOn verbose fields (x >>= g) := by
  -- where the first walk leads, the second one leads on
  have hon (t : Session) : Acts verbose fields (x t).2 ((x >>= g) t).2 := by
    rcases hxt : x t with ⟨e | a, t₁⟩
    · rw [bind_of_error hxt]
    · rw [bind_of_ok hxt]
      exact (hg a).acts t₁
  constructor
  · exact fun t => (hx.acts t).trans (hon t)
  · intro t t' h
    rcases hxt : x t with ⟨e | a, t₁⟩
    · rw [bind_of_error hxt] at h
      cases h
      obtain ⟨hdrained, hresumes⟩ := hx.resumes t t' hxt
      exact ⟨hdrained, fun more => (hresumes more).trans (hon _)⟩
    · rw [bind_of_ok hxt] at h
      obtain ⟨hdrained, hresumes⟩ := (hg a).resumes t₁ t' h
      refine ⟨hdrained, fun more => ?_⟩
      rw [bind_of_ok (hx.steady t _ t₁ hxt (by simp) more)]
      exact hresumes more
  · intro t outcome t' h hended more
    rcases hxt : x t with ⟨e | a, t₁⟩
    · rw [bind_of_error hxt] at h
      cases h
      exact bind_of_error (hx.steady t _ t' hxt (by simpa using hended) more)
    · rw [bind_of_ok hxt] at h
      rw [bind_of_ok (hx.steady t _ t₁ hxt (by simp) more)]
      exact (hg a).steady t₁ outcome t' h hended more

theorem actsOn_pure (a : α) : ActsOn verbose fields (pure a) where
  acts _ := .refl
  resumes _ _ h := by cases h
  steady _ _ _ h _ _ := by
    cases h
    rfl

theorem actsOn_throw {failure : WalkFailure} (h : failure ≠ .inputEnded) :
    ActsOn verbose fields (throw failure : Walk α) where
  acts _ := .refl
  resumes _ _ hended := by
    cases hended
    exact absurd rfl h
  steady _ _ _ h _ _ := by
    cases h
    rfl

theorem actsOn_say {said : Transcript} : ActsOn verbose fields (say said) where
  acts _ := .single (.said said)
  resumes _ _ h := by cases h
  steady _ _ _ h _ _ := by
    cases h
    rfl

/-- A walk may look at the values, and at nothing else that is there. -/
theorem actsOn_get {k : Session → Walk α} (h : ∀ s, ActsOn verbose fields (k s))
    (hk : ∀ s s', s.values = s'.values → k s = k s') : ActsOn verbose fields (get >>= k) := by
  have hget (s : Session) : (get >>= k) s = k s s := bind_of_ok (get_eq s)
  have hmore (s : Session) (more : List String) : k (s.followedBy more) = k s := hk _ _ rfl
  constructor
  · intro s
    rw [hget]
    exact (h s).acts s
  · intro s s' hs
    rw [hget] at hs
    obtain ⟨hdrained, hresumes⟩ := (h s).resumes s s' hs
    refine ⟨hdrained, fun more => ?_⟩
    rw [hget, hmore]
    exact hresumes more
  · intro s outcome s' hs hended more
    rw [hget] at hs
    rw [hget, hmore]
    exact (h s).steady s outcome s' hs hended more

theorem actsOn_discard (h : ActsOn verbose fields x) : ActsOn verbose fields (discard x) := by
  rw [discard_eq]
  exact h.bind fun _ => actsOn_pure ()

theorem actsOn_forM {g : α → Walk Unit} {l : List α} (h : ∀ a ∈ l, ActsOn verbose fields (g a)) :
    ActsOn verbose fields (l.forM g) := by
  induction l with
  | nil => exact actsOn_pure ()
  | cons a l ih =>
    obtain ⟨ha, hl⟩ := List.forall_mem_cons.mp h
    exact ha.bind fun _ => ih hl

end ActsOn

/-- A line that is taken is read, and what it answers or a default is captured. -/
theorem acts_turn {said : Transcript} (hf : f ∈ fields)
    (hasked : AsksFor verbose f ⟨line :: lines, values, said⟩)
    (h : turn inWizard f values line = .proceed values') :
    Acts verbose fields ⟨line :: lines, values, said⟩ ⟨lines, values', said⟩ := by
  have hread : Acts verbose fields ⟨line :: lines, values, said⟩ ⟨lines, values, said⟩ :=
    .single (.read rfl)
  unfold turn at h
  cases hr : Answer.read f line with
  | error fault =>
    rw [hr] at h
    cases h
  | ok answer =>
    rw [hr] at h
    cases answer with
    | back => cases inWizard <;> cases h
    | value v =>
      dsimp only at h
      cases hc : f.check (some v) with
      | some e =>
        rw [hc] at h
        cases h
      | none =>
        rw [hc] at h
        cases h
        exact .single (.answered hf hasked rfl hr hc)
    | keep =>
      dsimp only at h
      split at h
      · cases h
        exact hread
      · rename_i hnew
        split at h
        · rename_i v hv
          cases h
          exact hread.tail (.defaulted hf hv (by simpa using hnew))
        · split at h
          · cases h
          · cases h
            exact hread

/-- A prompt that has been shown is behind the first act of its question. -/
theorem acts_promptFrom {p : Prompt} (hp : p = Prompt.ofField f (values.get? f.name))
    {said : Transcript} (hf : f ∈ fields) (hk : f.kind ≠ .hidden) :
    Acts verbose fields ⟨lines, values, said ++ Transcript.prompt verbose p⟩
      (promptFrom verbose inWizard f p values said lines).2 := by
  induction lines generalizing said with
  | nil => exact .refl
  | cons line lines ih =>
    have hread : Acts verbose fields ⟨line :: lines, values, said ++ Transcript.prompt verbose p⟩
        ⟨lines, values, said ++ Transcript.prompt verbose p⟩ := .single (.read rfl)
    simp only [promptFrom]
    split
    · exact hread
    · cases ht : turn inWizard f values line with
      | proceed values' => exact acts_turn hf ⟨hk, said, by rw [hp]⟩ ht
      | goBack => exact hread
      | again more =>
        -- the line is refused, and the prompt is shown again
        refine (hread.tail (.said more)).trans (.head (.said (Transcript.prompt verbose p)) ?_)
        exact ih

/-- A prompt at which the lines end is shown already when more lines are typed. -/
theorem resumes_promptFrom {p : Prompt} (hp : p = Prompt.ofField f (values.get? f.name))
    {said : Transcript} (hf : f ∈ fields) (hk : f.kind ≠ .hidden)
    (h : promptFrom verbose inWizard f p values said lines = (.error .inputEnded, s')) :
    s'.lines = [] ∧ ∀ more, Acts verbose fields (s'.followedBy more)
      (promptFrom verbose inWizard f p values said (lines ++ more)).2 := by
  induction lines generalizing said with
  | nil =>
    cases h
    exact ⟨rfl, fun more => acts_promptFrom hp hf hk⟩
  | cons line lines ih =>
    simp only [promptFrom, List.cons_append] at h ⊢
    cases he : isExit line with
    | true => simp [he] at h
    | false =>
      cases ht : turn inWizard f values line with
      | proceed values' => simp [he, ht] at h
      | goBack => simp [he, ht] at h
      | again more' =>
        simp only [he, ht, Bool.false_eq_true, if_false] at h ⊢
        exact ih h

/-- A prompt that a line ends does not look at the lines behind it. -/
theorem steady_promptFrom {p : Prompt} {said : Transcript} {outcome : Except WalkFailure Flow}
    (h : promptFrom verbose inWizard f p values said lines = (outcome, s'))
    (hended : outcome ≠ .error .inputEnded) :
    promptFrom verbose inWizard f p values said (lines ++ more) =
      (outcome, s'.followedBy more) := by
  induction lines generalizing said with
  | nil =>
    cases h
    exact absurd rfl hended
  | cons line lines ih =>
    simp only [promptFrom, List.cons_append] at h ⊢
    cases he : isExit line with
    | true =>
      simp only [he, if_true] at h ⊢
      cases h
      rfl
    | false =>
      simp only [he, Bool.false_eq_true, if_false] at h ⊢
      cases ht : turn inWizard f values line with
      | proceed values' =>
        simp only [ht] at h ⊢
        cases h
        rfl
      | goBack =>
        simp only [ht] at h ⊢
        cases h
        rfl
      | again more' =>
        simp only [ht] at h ⊢
        exact ih h

theorem acts_defaulted (hf : f ∈ fields) (s : Session) :
    Acts verbose fields s { s with values := f.defaulted s.values } := by
  unfold Field.defaulted
  cases hv : f.defaultValue with
  | none => exact .refl
  | some v =>
    dsimp only
    split
    · exact .refl
    · rename_i hnew
      exact .single (.defaulted hf hv (by simpa using hnew))

theorem actsOn_hidden (hf : f ∈ fields) : ActsOn verbose fields (hidden f) where
  acts s := by
    rw [hidden_eq]
    split <;> exact acts_defaulted hf s
  resumes s s' h := by
    rw [hidden_eq] at h
    split at h <;> cases h
  steady s outcome s' h _ more := by
    have hvalues : (s.followedBy more).values = s.values := rfl
    rw [hidden_eq] at h
    rw [hidden_eq, hvalues]
    cases hc : f.check ((f.defaulted s.values).get? f.name) with
    | some e =>
      simp only [hc] at h
      cases h
      rfl
    | none =>
      simp only [hc] at h
      cases h
      rfl

theorem actsOn_ask (hf : f ∈ fields) : ActsOn verbose fields (ask verbose inWizard f) := by
  unfold ask
  split
  · exact actsOn_hidden hf
  · rename_i hk
    constructor
    · exact fun s => .head (.said (Transcript.prompt verbose _)) (acts_promptFrom rfl hf hk)
    · exact fun s s' h => resumes_promptFrom rfl hf hk h
    · exact fun s outcome s' h hended more => steady_promptFrom h hended

theorem actsOn_askStep {asked : List Field} (h : ∀ f ∈ asked, f ∈ fields) :
    ActsOn verbose fields (askStep verbose asked) := by
  induction asked with
  | nil => exact actsOn_pure Flow.next
  | cons f asked ih =>
    obtain ⟨hf, hasked⟩ := List.forall_mem_cons.mp h
    refine (actsOn_ask hf).bind fun flow => ?_
    cases flow with
    | next => exact ih hasked
    | back => exact actsOn_pure Flow.back

theorem actsOn_collect {asked : List Field} (h : ∀ f ∈ asked, f ∈ fields) :
    ActsOn verbose fields (collect verbose asked) := by
  refine actsOn_forM fun f hf => actsOn_get (fun s => ?_) fun s s' hs => by rw [hs]
  split
  · exact actsOn_discard (actsOn_ask (h f hf))
  · exact actsOn_pure ()

section Wizard

variable {w : WizardSection} {state : WizardState} {fuel : Nat}

theorem actsOn_visit (h : ∀ step ∈ w.steps, ∀ f ∈ step.fields, f ∈ fields) :
    ActsOn verbose fields (visit verbose w state) := by
  unfold visit
  cases hat : w.stepAt? state with
  | none => exact actsOn_pure none
  | some step =>
    have hstep : step ∈ w.steps := WizardSection.mem_of_stepAt? hat
    refine actsOn_say.bind fun _ => (actsOn_askStep (h step hstep)).bind fun flow => ?_
    cases flow with
    | back => exact actsOn_pure _
    | next =>
      refine actsOn_get (fun now => ?_) fun s s' hs => by rw [hs]
      cases w.next now.values state with
      | ok state => exact actsOn_pure _
      | error e =>
        cases e with
        | invalid errors => exact actsOn_say.bind fun _ => actsOn_pure _
        | completed => exact actsOn_pure _

theorem actsOn_steps (h : ∀ step ∈ w.steps, ∀ f ∈ step.fields, f ∈ fields) :
    ActsOn verbose fields (steps verbose w fuel state) := by
  induction fuel generalizing state with
  | zero => exact actsOn_throw fun h => by cases h
  | succ fuel ih =>
    rw [steps_succ]
    refine (actsOn_visit h).bind fun next => ?_
    cases next with
    | none => exact actsOn_pure ()
    | some state => exact ih

theorem wizardFuel_followedBy : wizardFuel w s.lines ≤ wizardFuel w (s.followedBy more).lines := by
  refine Nat.mul_le_mul_right _ (Nat.mul_le_mul_left _ (Nat.add_le_add_right ?_ _))
  exact (List.sublist_append_left _ _).length_le

/-- More lines need more fuel, which changes nothing for fewer lines. -/
theorem actsOn_wizard (h : ∀ step ∈ w.steps, ∀ f ∈ step.fields, f ∈ fields) :
    ActsOn verbose fields (wizard verbose w) := by
  have hsteps (fuel : Nat) : ActsOn verbose fields (steps verbose w fuel w.initial) :=
    actsOn_steps h
  have heq (s : Session) :
      wizard verbose w s = steps verbose w (wizardFuel w s.lines) w.initial s := rfl
  have hmore (s : Session) (more : List String) :
      steps verbose w (wizardFuel w (s.followedBy more).lines) w.initial s = wizard verbose w s :=
    steps_eq_wizard wizardFuel_followedBy
  constructor
  · intro s
    rw [heq]
    exact (hsteps _).acts s
  · intro s s' hs
    refine ⟨((hsteps _).resumes s s' (heq s ▸ hs)).1, fun more => ?_⟩
    rw [heq]
    exact ((hsteps _).resumes s s' (hmore s more ▸ hs)).2 more
  · intro s outcome s' hs hended more
    rw [heq]
    exact (hsteps _).steady s outcome s' (hmore s more ▸ hs) hended more

end Wizard

variable {d : Document}

theorem actsOn_showEvaluated {index : Nat} :
    ActsOn verbose fields (showEvaluated verbose d index) := by
  refine actsOn_get (fun s => ?_) fun s s' hs => by rw [hs]
  cases d.evaluate (d.environment s.values) with
  | error e => exact actsOn_throw fun h => by cases h
  | ok views => exact actsOn_say

theorem actsOn_part {index : Nat} {piece : Section} (h : ∀ f ∈ piece.fields, f ∈ fields) :
    ActsOn verbose fields (part verbose d index piece) := by
  cases piece with
  | text _ => exact actsOn_say
  | form _ => exact actsOn_say.bind fun _ => actsOn_collect h
  | calculator _ => exact (actsOn_collect h).bind fun _ => actsOn_showEvaluated
  | wizard w =>
    have hsteps : ∀ step ∈ w.steps, ∀ f ∈ step.fields, f ∈ fields :=
      fun step hstep f hf => h f (List.mem_flatMap.mpr ⟨step, hstep, hf⟩)
    exact actsOn_say.bind fun _ => actsOn_wizard hsteps
  | result _ => exact actsOn_showEvaluated

theorem actsOn_run : ActsOn verbose d.fields (run verbose d) := by
  refine actsOn_say.bind fun _ => actsOn_forM fun ⟨piece, i⟩ hpiece => actsOn_part fun f hf => ?_
  exact List.mem_flatMap.mpr ⟨piece, List.fst_mem_of_mem_zipIdx hpiece, hf⟩

theorem Act.get?_of_ne (h : Act verbose fields s s') (hname : ∀ f ∈ fields, f.name ≠ name) :
    s'.values.get? name = s.values.get? name := by
  cases h with
  | said _ | read _ => rfl
  | answered hf _ _ _ _ | defaulted hf _ _ =>
    rw [Dict.get?_insert, if_neg (hname _ hf).symm]

/-- Only what the fields are named for is captured. -/
theorem Acts.get?_of_ne (h : Acts verbose fields s s') (hname : ∀ f ∈ fields, f.name ≠ name) :
    s'.values.get? name = s.values.get? name := by
  induction h with
  | refl => rfl
  | tail _ hact ih => exact (hact.get?_of_ne hname).trans ih

theorem Act.contains (h : Act verbose fields s s') (hname : s.values.contains name = true) :
    s'.values.contains name = true := by
  cases h with
  | said _ | read _ => exact hname
  | answered _ _ _ _ _ | defaulted _ _ _ =>
    rw [Dict.contains_insert, hname, Bool.or_true]

theorem Acts.contains (h : Acts verbose fields s s') (hname : s.values.contains name = true) :
    s'.values.contains name = true := by
  induction h with
  | refl => exact hname
  | tail _ hact ih => exact hact.contains ih

/-- Where a value that is captured under the name once acts have led from one session to another one
can come from: it was there before, or is the default of a field of this name, or was read from a
line that was typed in between, when such a field was asked for, and is valid for it. -/
inductive Origin (verbose : Bool) (fields : List Field) (s m : Session) (name : String) (v : Json) :
    Prop
  | prefilled (h : s.values.get? name = some v)
  | default {f : Field} (hf : f ∈ fields) (hname : f.name = name) (hv : f.defaultValue = some v)
  | answered {f : Field} {t : Session} {line : String} {lines : List String} (hf : f ∈ fields)
      (hname : f.name = name) (hbefore : Acts verbose fields s t) (hasked : AsksFor verbose f t)
      (hlines : t.lines = line :: lines) (hread : Answer.read f line = .ok (.value v))
      (hcheck : f.check (some v) = none)
      (hafter : Acts verbose fields { t with lines, values := t.values.insert f.name v } m)

variable {v : Json}

theorem Origin.act (h : Origin verbose fields s m name v) (hact : Act verbose fields m s') :
    Origin verbose fields s s' name v := by
  cases h with
  | prefilled h => exact .prefilled h
  | default hf hname hv => exact .default hf hname hv
  | answered hf hname hbefore hasked hlines hread hcheck hafter =>
    exact .answered hf hname hbefore hasked hlines hread hcheck (hafter.tail hact)

theorem Acts.origin (h : Acts verbose fields s m) (hv : m.values.get? name = some v) :
    Origin verbose fields s m name v := by
  induction h with
  | refl => exact .prefilled hv
  | @tail m m' hacts hact ih =>
    have hkept (hv : m.values.get? name = some v) : Origin verbose fields s m' name v :=
      (ih hv).act hact
    cases hact with
    | said _ | read _ => exact hkept hv
    | answered hf hasked hlines hread hcheck =>
      rw [Dict.get?_insert] at hv
      split at hv
      · rename_i hname
        cases hv
        exact .answered hf hname.symm hacts hasked hlines hread hcheck .refl
      · exact hkept hv
    | defaulted hf hdefault _ =>
      rw [Dict.get?_insert] at hv
      split at hv
      · rename_i hname
        cases hv
        exact .default hf hname.symm hdefault
      · exact hkept hv

/-- A moment of a run: it has read the first lines and waits for the next one, or it has ended. -/
inductive Moment (verbose : Bool) (d : Document) (s : Session) : Session → Prop
  | awaiting {read rest : List String} {m : Session} (hlines : s.lines = read ++ rest)
      (h : run verbose d { s with lines := read } = (.error .inputEnded, m)) :
      Moment verbose d s { m with lines := rest }
  | ended : Moment verbose d s (run verbose d s).2

/-- A run that waits for a line goes on from there when lines are typed. -/
theorem acts_of_awaiting {read : List String}
    (h : run verbose d { s with lines := read } = (.error .inputEnded, m)) (more : List String) :
    Acts verbose d.fields { m with lines := more }
      (run verbose d { s with lines := read ++ more }).2 := by
  obtain ⟨hdrained, hresumes⟩ := actsOn_run.resumes _ _ h
  have hmore := hresumes more
  rwa [Session.followedBy, hdrained, List.nil_append] at hmore

theorem Moment.acts (h : Moment verbose d s m) : Acts verbose d.fields s m := by
  cases h with
  | ended => exact actsOn_run.acts s
  | @awaiting read rest m hlines h =>
    have hrun : ActsOn verbose d.fields (run verbose d) := actsOn_run
    have hacts := hrun.acts { s with lines := read }
    rw [h] at hacts
    obtain ⟨hdrained, -⟩ := hrun.resumes _ _ h
    simpa [Session.followedBy, hdrained, ← hlines] using hacts.followedBy rest

/-- Of two moments one is later, and acts lead to it from the other one. -/
theorem Moment.acts_or (h : Moment verbose d s m) (h' : Moment verbose d s s') :
    Acts verbose d.fields m s' ∨ Acts verbose d.fields s' m := by
  have hended {t : Session} (ht : Moment verbose d s t) :
      Acts verbose d.fields t (run verbose d s).2 := by
    cases ht with
    | ended => exact .refl
    | @awaiting read rest _ hlines ht =>
      have hacts := acts_of_awaiting ht rest
      rwa [← hlines] at hacts
  -- the one that has read fewer lines is taken on by those that the other one has read since
  have hlater {first between rest : List String} {t t' : Session}
      (ht : run verbose d { s with lines := first } = (.error .inputEnded, t))
      (ht' : run verbose d { s with lines := first ++ between } = (.error .inputEnded, t')) :
      Acts verbose d.fields { t with lines := between ++ rest } { t' with lines := rest } := by
    have hacts := (acts_of_awaiting ht between).followedBy rest
    obtain ⟨hdrained, -⟩ := actsOn_run.resumes _ _ ht'
    rw [ht'] at hacts
    simpa [Session.followedBy, hdrained] using hacts
  cases h with
  | ended => exact .inr (hended h')
  | @awaiting read rest m hlines hm =>
    cases h' with
    | ended => exact .inl (hended (.awaiting hlines hm))
    | @awaiting read' rest' m' hlines' hm' =>
      rcases List.append_eq_append_iff.mp (hlines.symm.trans hlines') with
        ⟨between, rfl, rfl⟩ | ⟨between, rfl, rfl⟩
      · exact .inl (hlater hm hm')
      · exact .inr (hlater hm' hm)

/-- A run does one act after the other: each of its moments has come from the start by acts, and of
any two moments one has come from the other. Wherever acts have led to, each value that is captured
was there from the start, is the default of a field of its name, or was read for such a field from a
line that has been typed since and is valid for it; no other names are added, and none is lost by
further acts. -/
theorem run_captures_justified (verbose : Bool) (d : Document) (s : Session) :
    (∀ m, Moment verbose d s m → Acts verbose d.fields s m) ∧
    (∀ m m', Moment verbose d s m → Moment verbose d s m' →
      Acts verbose d.fields m m' ∨ Acts verbose d.fields m' m) ∧
    (∀ m, Acts verbose d.fields s m →
      (∀ name v, m.values.get? name = some v → Origin verbose d.fields s m name v) ∧
      ∀ name, m.values.contains name = true →
        s.values.contains name = true ∨ ∃ f ∈ d.fields, f.name = name) ∧
    ∀ m m', Acts verbose d.fields m m' → ∀ name, m.values.contains name = true →
      m'.values.contains name = true := by
  refine ⟨fun _ => Moment.acts, fun _ _ => Moment.acts_or, ?_, fun _ _ h _ => h.contains⟩
  intro m hm
  refine ⟨fun _ _ => hm.origin, fun name hname => ?_⟩
  by_cases hfield : ∃ f ∈ d.fields, f.name = name
  · exact .inr hfield
  · have hother : ∀ f ∈ d.fields, f.name ≠ name := fun f hf he => hfield ⟨f, hf, he⟩
    rw [Dict.contains, hm.get?_of_ne hother] at hname
    exact .inl hname

/-- Asks for a name, and notes where one came from. -/
def visitors : Document where
  identity := ⟨"Visitors", "visitors", "Asks for a name", none⟩
  sections := [.form ⟨none, [⟨"name", "Name", .text, none, true, [], none, none, {}⟩,
    ⟨"utm", "UTM", .hidden, none, false, [], some (.text "spring"), none, {}⟩]⟩]
  crm := none
  settings := none

/-- The first line is refused, and the second one is captured. -/
theorem run_captures_justified_visitors :
    ∃ m m', Moment false visitors ⟨["\n", "Jo\n"], {}, []⟩ m ∧ m.lines = ["Jo\n"] ∧
      Moment false visitors ⟨["\n", "Jo\n"], {}, []⟩ m' ∧ m'.lines = [] ∧
      Acts false visitors.fields ⟨["\n", "Jo\n"], {}, []⟩ m ∧
      (Acts false visitors.fields m m' ∨ Acts false visitors.fields m' m) ∧
      Origin false visitors.fields ⟨["\n", "Jo\n"], {}, []⟩ m' "name" (.text "Jo") ∧
      Origin false visitors.fields ⟨["\n", "Jo\n"], {}, []⟩ m' "utm" (.text "spring") := by
  obtain ⟨hacts, hlinked, hcaptured, -⟩ :=
    run_captures_justified false visitors ⟨["\n", "Jo\n"], {}, []⟩
  have hwaits : Moment false visitors ⟨["\n", "Jo\n"], {}, []⟩ _ :=
    @Moment.awaiting false visitors ⟨["\n", "Jo\n"], {}, []⟩ ["\n"] ["Jo\n"] _ rfl rfl
  obtain ⟨horigin, -⟩ := hcaptured _ (hacts _ .ended)
  exact ⟨_, _, hwaits, rfl, .ended, rfl, hacts _ hwaits, hlinked _ _ hwaits .ended,
    horigin "name" _ rfl, horigin "utm" _ rfl⟩

end Walk

end AppDef
