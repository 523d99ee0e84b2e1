import AppDef.Proofs.Provenance
import AppDef.Proofs.Template.Verbatim

namespace AppDef

namespace Template

variable {α β : Type} {s : Scope} {c : Call} {args : List Json} {h : Helper}

mutual

/-- The calls in a parameter, those in its options too. -/
def Param.calls : Param → List Call
  | .name _ | .path _ | .literal _ => []
  | .call target args options =>
    ⟨target, args, options⟩ ::
      (target.calls ++ (Param.callsOf args ++ Param.callsOfOptions options))

def Param.callsOf : List Param → List Call
  | [] => []
  | p :: ps => p.calls ++ Param.callsOf ps

def Param.callsOfOptions : List (String × Param) → List Call
  | [] => []
  | (_, p) :: options => p.calls ++ Param.callsOfOptions options

end

/-- The calls within what a call is given. -/
def Call.inner (c : Call) : List Call :=
  c.target.calls ++ (Param.callsOf c.args ++ Param.callsOfOptions c.options)

mutual

/-- All calls that a rendering may carry out: no definition, directive or inclusion calls a helper
itself. -/
def Element.calls : Element → List Call
  | .text _ | .comment => []
  | .value call => call :: call.inner
  | .block call _ body inverse =>
    (call :: call.inner) ++ (Element.callsOf body ++ Element.callsOf inverse)
  | .definition call body | .inclusion call _ body => call.inner ++ Element.callsOf body
  | .directive call => call.inner

def Element.callsOf : List Element → List Call
  | [] => []
  | e :: es => e.calls ++ Element.callsOf es

end

/-- A number and more places than any number is shown with. -/
def AsksTooMany (args : List Json) : Prop :=
  ∃ a b rest x places, args = a :: b :: rest ∧ numberOf? a = some x ∧ b.asNat? = some places ∧
    mostPlaces < places

structure Invocation.Overruns (i : Invocation) : Prop where
  helper : i.helper = .value .fixed
  places : AsksTooMany i.args

/-- In this scope the call asks for too many places, once all that it is given is evaluated. -/
def Call.Overruns (s : Scope) (c : Call) : Prop :=
  ∃ i, c.invoke s = .ok i ∧ i.Overruns

/-- In no scope does one of the calls ask for too many places. -/
def Spared (calls : List Call) : Prop :=
  ∀ c ∈ calls, ∀ s, ¬ c.Overruns s

theorem spared_append {calls calls' : List Call} :
    Spared (calls ++ calls') ↔ Spared calls ∧ Spared calls' :=
  List.forall_mem_append

theorem spared_cons {calls : List Call} :
    Spared (c :: calls) ↔ (∀ s, ¬ c.Overruns s) ∧ Spared calls :=
  List.forall_mem_cons

theorem ValueHelper.apply_eq_tooManyPlaces_iff {h : ValueHelper} :
    h.apply args = .error .tooManyPlaces ↔ h = .fixed ∧ AsksTooMany args := by
  rcases args with _ | ⟨a, _ | ⟨b, rest⟩⟩
  · cases h <;> simp [apply, AsksTooMany]
  · cases h <;> simp [apply, AsksTooMany]
  · cases h with
    | fixed =>
      cases hplaces : b.asNat? with
      | none => simp [apply, AsksTooMany, hplaces]
      | some places =>
        cases hx : numberOf? a with
        | none => simp [apply, AsksTooMany, hplaces, hx]
        | some x => simp [apply, AsksTooMany, hplaces, hx]
    | _ => simp [apply]

/-- The computation does not fail for too many places. -/
def Tame (x : Except Fault α) : Prop :=
  x ≠ .error .tooManyPlaces

theorem tame_ok (a : α) : Tame (.ok a) := by
  intro h
  cases h

theorem tame_refused : Tame (.error .refused : Except Fault α) := by
  intro h
  cases h

theorem Tame.bind {x : Except Fault α} {f : α → Except Fault β} (hx : Tame x)
    (hf : ∀ a, x = .ok a → Tame (f a)) : Tame (x >>= f) := by
  cases x with
  | ok a => exact hf a rfl
  | error fault =>
    cases fault with
    | refused => exact tame_refused
    | tooManyPlaces => exact absurd rfl hx

theorem Tame.map {x : Except Fault α} (hx : Tame x) (f : α → β) : Tame (x.map f) := by
  intro h
  exact hx (except_map_eq_error.mp h)

theorem tame_mapM {f : α → Except Fault β} {l : List α} (h : ∀ a ∈ l, Tame (f a)) :
    Tame (l.mapM f) := by
  induction l with
  | nil => exact tame_ok []
  | cons a l ih =>
    obtain ⟨ha, hl⟩ := List.forall_mem_cons.mp h
    rw [List.mapM_cons]
    exact ha.bind fun b _ => (ih hl).bind fun bs _ => tame_ok (b :: bs)

theorem tame_descend (v? : Option Json) (names : List String) : Tame (descend v? names) := by
  induction names generalizing v? with
  | nil => cases v? <;> exact tame_ok _
  | cons name names ih =>
    cases v? with
    | none => exact tame_ok none
    | some v =>
      have hmember : Tame (member v name) := by
        unfold member
        split
        · split
          · exact tame_ok _
          · exact tame_refused
        · exact tame_ok _
        · exact tame_ok none
      exact hmember.bind fun v? _ => ih v?

theorem Scope.tame_resolve (s : Scope) (segments : List Segment) : Tame (s.resolve segments) := by
  unfold resolve
  dsimp only
  split
  · split <;> exact tame_descend _ _
  · exact tame_descend _ _
  · split
    · exact tame_ok _
    · exact tame_descend _ _
  · exact tame_descend _ _

theorem Invocation.value_eq_tooManyPlaces_iff {i : Invocation} :
    i.value = .error .tooManyPlaces ↔ i.Overruns := by
  obtain ⟨h, args, options⟩ := i
  constructor
  · intro he
    cases h with
    | value h =>
      obtain ⟨rfl, hargs⟩ := ValueHelper.apply_eq_tooManyPlaces_iff.mp he
      exact ⟨rfl, hargs⟩
    | log =>
      simp only [value, Helper.inlineValue] at he
      split at he <;> cases he
    | raw => cases he
    | conditional _ | each | «scoped» => cases args <;> cases he
  · rintro ⟨rfl, hargs⟩
    exact ValueHelper.apply_eq_tooManyPlaces_iff.mpr ⟨rfl, hargs⟩

/-- A call that is a parameter comes to the value of what it invokes. -/
theorem evalParam_call (s : Scope) (target : Param) (args : List Param)
    (options : List (String × Param)) :
    evalParam s (.call target args options) =
      (do return some (← (← Call.invoke s ⟨target, args, options⟩).value)) := by
  simp only [evalParam, Call.invoke, paramName, bind_assoc]
  refine bind_congr fun name => bind_congr fun args => bind_congr fun options => ?_
  cases Helper.named? name <;> rfl

theorem tame_paramName {p : Param} (hp : Tame (evalParam s p)) : Tame (paramName s p) := by
  unfold paramName Param.nameBy
  split
  · exact tame_ok _
  · exact hp.map _

/-- A helper that is not found is a refusal. -/
theorem Call.tame_invoke (hname : Tame (paramName s c.target)) (hargs : Tame (evalParams s c.args))
    (hoptions : Tame (evalOptions s c.options)) : Tame (c.invoke s) := by
  refine hname.bind fun name _ => hargs.bind fun args _ => hoptions.bind fun options _ => ?_
  split
  · exact tame_ok _
  · exact tame_refused

theorem tame_value {i : Invocation} (hi : ¬ i.Overruns) : Tame i.value :=
  fun h => hi (Invocation.value_eq_tooManyPlaces_iff.mp h)

theorem spared_inner : Spared c.inner ↔ Spared c.target.calls ∧ Spared (Param.callsOf c.args) ∧
    Spared (Param.callsOfOptions c.options) :=
  spared_append.trans (and_congr_right fun _ => spared_append)

mutual

theorem tame_evalParam (s : Scope) : (p : Param) → Spared p.calls → Tame (evalParam s p)
  | .name _, _ => tame_ok none
  | .path p, _ => s.tame_resolve p.segments
  | .literal v, _ => tame_ok (some v)
  | .call target args options, hp => by
    obtain ⟨hcall, hparts⟩ := spared_cons.mp hp
    obtain ⟨htarget, hgiven⟩ := spared_append.mp hparts
    obtain ⟨hargs, hoptions⟩ := spared_append.mp hgiven
    have hinvoke : Tame (Call.invoke s ⟨target, args, options⟩) :=
      Call.tame_invoke (tame_paramName (tame_evalParam s target htarget))
        (tame_evalParams s args hargs) (tame_evalOptions s options hoptions)
    rw [evalParam_call]
    refine hinvoke.bind fun i hi => ?_
    have hvalue : Tame i.value := tame_value fun h => hcall s ⟨i, hi, h⟩
    exact hvalue.bind fun v _ => tame_ok _

theorem tame_evalParams (s : Scope) :
    (ps : List Param) → Spared (Param.callsOf ps) → Tame (evalParams s ps)
  | [], _ => tame_ok []
  | p :: ps, hps => by
    obtain ⟨hp, hps⟩ := spared_append.mp hps
    simp only [evalParams]
    exact (tame_evalParam s p hp).bind fun v _ =>
      (tame_evalParams s ps hps).bind fun vs _ => tame_ok _

theorem tame_evalOptions (s : Scope) :
    (options : List (String × Param)) → Spared (Param.callsOfOptions options) →
      Tame (evalOptions s options)
  | [], _ => tame_ok []
  | (name, p) :: options, ho => by
    obtain ⟨hp, ho⟩ := spared_append.mp ho
    simp only [evalOptions]
    exact (tame_evalParam s p hp).bind fun v _ =>
      (tame_evalOptions s options ho).bind fun vs _ => tame_ok _

end

/-- What a call whose parts are spared is given, and the helper that it names, are found out without
too many places. -/
theorem tame_invoke (s : Scope) (hinner : Spared c.inner) : Tame (c.invoke s) := by
  obtain ⟨htarget, hargs, hoptions⟩ := spared_inner.mp hinner
  exact Call.tame_invoke (tame_paramName (tame_evalParam s _ htarget)) (tame_evalParams s _ hargs)
    (tame_evalOptions s _ hoptions)

theorem tame_renderValue (hcall : ¬ c.Overruns s) (hinner : Spared c.inner) :
    Tame (renderValue s c) := by
  have htarget := tame_evalParam s _ (spared_inner.mp hinner).1
  unfold renderValue
  refine (tame_paramName htarget).bind fun name _ => ?_
  split
  · exact htarget.bind fun v _ => tame_ok _
  · refine (tame_invoke s hinner).bind fun i hi => ?_
    have hvalue : Tame i.value := tame_value fun h => hcall ⟨i, hi, h⟩
    exact hvalue.bind fun v _ => tame_ok _

theorem Invocation.tame_tasks {i : Invocation} (hi : ¬ i.Overruns) (names : List String) :
    Tame (i.tasks s names) := by
  obtain ⟨h, args, options⟩ := i
  unfold tasks
  cases h with
  | value h =>
    have happly : Tame (h.apply args) := tame_value hi
    exact happly.bind fun v _ => tame_ok _
  | log =>
    dsimp only
    split
    · exact tame_ok _
    · exact tame_refused
  | raw => exact tame_ok _
  | conditional positive =>
    cases args with
    | nil => exact tame_refused
    | cons v args => exact tame_ok _
  | each | «scoped» =>
    cases args with
    | nil => exact tame_refused
    | cons v args =>
      dsimp only
      split <;> exact tame_ok _

theorem tame_tasks (s : Scope) (hc : Spared (c :: c.inner)) (names : List String) :
    Tame (tasks s c names) := by
  obtain ⟨hcall, hinner⟩ := spared_cons.mp hc
  exact (tame_invoke s hinner).bind fun i hi =>
    i.tame_tasks (fun h => hcall s ⟨i, hi, h⟩) names

theorem spared_of_mem {p : Param} {ps : List Param} (hp : p ∈ ps)
    (hps : Spared (Param.callsOf ps)) : Spared p.calls := by
  induction ps with
  | nil => cases hp
  | cons q ps ih =>
    obtain ⟨hq, hps⟩ := spared_append.mp hps
    rcases List.mem_cons.mp hp with rfl | hp
    · exact hq
    · exact ih hp hps

theorem tame_inclusionScope (s : Scope) (hc : Spared c.inner) : Tame (inclusionScope s c) := by
  obtain ⟨-, hargs, hoptions⟩ := spared_inner.mp hc
  have hvalues : Tame (c.args.mapM (evalParam s)) :=
    tame_mapM fun p hp => tame_evalParam s p (spared_of_mem hp hargs)
  unfold inclusionScope
  refine hvalues.bind fun args _ => (tame_evalOptions s _ hoptions).bind fun options _ => ?_
  dsimp only
  split <;> exact tame_ok _

theorem tame_definedName (s : Scope) (hc : Spared c.inner) : Tame (definedName s c) := by
  obtain ⟨htarget, hargs, hoptions⟩ := spared_inner.mp hc
  unfold definedName
  refine (tame_paramName (tame_evalParam s _ htarget)).bind fun kind _ =>
    (tame_evalParams s _ hargs).bind fun args _ =>
      (tame_evalOptions s _ hoptions).bind fun _ _ => ?_
  split
  · exact tame_ok _
  · exact tame_refused

/-- All bodies that were defined are spared. -/
def Bodies.AllSpared (bodies : Bodies) : Prop :=
  ∀ name body, bodies.get? name = some body → Spared (Element.callsOf body)

/-- Among bodies that are spared the rendering does not fail for too many places, and it leaves such
bodies behind. -/
def Tames (r : Render α) : Prop :=
  ∀ bodies, Bodies.AllSpared bodies →
    Ends (r bodies) (fun p => Bodies.AllSpared p.2) (· ≠ .tooManyPlaces)

namespace Tames

theorem pure (a : α) : Tames (pure a) :=
  fun _ hb => hb

theorem refused : Tames (fail .refused : Render α) := by
  intro _ _ h
  cases h

theorem bind {r : Render α} {f : α → Render β} (hr : Tames r) (hf : ∀ a, Tames (f a)) :
    Tames (r >>= f) :=
  fun bodies hb => (hr bodies hb).bind fun p hp => hf p.1 p.2 hp

theorem lift {x : Except Fault α} (hx : Tame x) : Tames (x : Render α) := by
  cases x with
  | ok a => exact pure a
  | error fault =>
    intro _ _ he
    exact hx (congrArg _ he)

theorem get {f : Bodies → Render α} (hf : ∀ bodies, Bodies.AllSpared bodies → Tames (f bodies)) :
    Tames (get >>= f) :=
  fun bodies hb => hf bodies hb bodies hb

theorem modify {f : Bodies → Bodies}
    (hf : ∀ bodies, Bodies.AllSpared bodies → Bodies.AllSpared (f bodies)) :
    Tames (modify f : Render Unit) :=
  hf

theorem foldlM {γ : Type} {l : List γ} {f : α → γ → Render α} (hf : ∀ a, ∀ c ∈ l, Tames (f a c))
    (a : α) : Tames (l.foldlM f a) := by
  induction l generalizing a with
  | nil => exact pure a
  | cons c l ih =>
    simp only [List.foldlM_cons]
    exact bind (hf a c List.mem_cons_self) (ih fun a c hc => hf a c (List.mem_cons_of_mem _ hc))

end Tames

namespace Bodies.AllSpared

variable {bodies : Bodies}

theorem empty : AllSpared {} := by
  intro name body h
  cases h

theorem insert (h : AllSpared bodies) {body : List Element} (hb : Spared (Element.callsOf body))
    (name : String) : AllSpared (Dict.insert bodies name body) :=
  Dict.forall_insert h hb name

theorem erase (h : AllSpared bodies) (name : String) : AllSpared (Dict.erase bodies name) :=
  Dict.forall_erase h name

end Bodies.AllSpared

/-- Included bodies are rendered without too many places, if they are spared. -/
def IncludesTame (included : Include) : Prop :=
  ∀ s body, Spared (Element.callsOf body) → Tames (included s body)

theorem tames_withOwnBody {body? : Option (List Element)} {r : Render String}
    (hbody : ∀ body, body? = some body → Spared (Element.callsOf body)) (hr : Tames r) :
    Tames (withOwnBody body? r) := by
  cases body? with
  | none => exact hr
  | some body =>
    refine .get fun bodies hb => .bind (.modify fun _ hb => hb.insert (hbody body rfl) _) fun _ =>
      hr.bind fun text => .bind (.modify fun _ hafter => ?_) fun _ => .pure text
    split
    · rename_i before hbefore
      exact hafter.insert (hb _ before hbefore) _
    · exact hafter.erase _

variable {included : Include}

theorem tames_renderInclusion {own? : Option (List Element)} (hi : IncludesTame included)
    (inner : Scope) (name : String)
    (hown : ∀ body, own? = some body → Spared (Element.callsOf body)) :
    Tames (renderInclusion included inner name own?) := by
  refine .get fun bodies hb => ?_
  split
  · rename_i body hbody
    exact tames_withOwnBody hown (hi inner body (forall_included hb hown hbody))
  · exact .refused

mutual

theorem tames_renderElement (hi : IncludesTame included) :
    (e : Element) → Spared e.calls → ∀ s, Tames (renderElement included s e)
  | .text t, _, _ => .pure t
  | .comment, _, _ => .pure ""
  | .value call, he, s => by
    obtain ⟨hcall, hinner⟩ := spared_cons.mp he
    exact .lift (tame_renderValue (hcall s) hinner)
  | .directive call, he, s => by
    simp only [renderElement]
    exact (Tames.lift (tame_definedName s he)).bind fun _ => .refused
  | .block call names body inverse, he, s => by
    obtain ⟨hcall, hbranches⟩ := spared_append.mp he
    obtain ⟨hbody, hinverse⟩ := spared_append.mp hbranches
    simp only [renderElement]
    refine (Tames.lift (tame_tasks s hcall names)).bind fun todo =>
      .foldlM (fun done task _ => ?_) ""
    cases task with
    | text t => exact .pure (done ++ t)
    | body inner =>
      exact (tames_renderAll hi body hbody inner).bind fun text => .pure (done ++ text)
    | inverse outer =>
      exact (tames_renderAll hi inverse hinverse outer).bind fun text => .pure (done ++ text)
  | .definition call body, he, s => by
    obtain ⟨hcall, hbody⟩ := spared_append.mp he
    simp only [renderElement]
    refine (Tames.lift (tame_definedName s hcall)).bind fun name =>
      .bind (.modify fun _ hb => hb.insert hbody name) fun _ => .pure ""
  | .inclusion call own body, he, s => by
    obtain ⟨hcall, hbody⟩ := spared_append.mp he
    have htarget := tame_evalParam s _ (spared_inner.mp hcall).1
    simp only [renderElement]
    refine (Tames.lift (tame_paramName htarget)).bind fun name =>
      (Tames.lift (tame_inclusionScope s hcall)).bind fun inner => ?_
    split
    · refine (tames_renderDefinitions hi body hbody s).bind fun _ =>
        tames_renderInclusion hi inner name fun _ hown => ?_
      cases hown
      exact hbody
    · refine tames_renderInclusion hi inner name fun _ hown => ?_
      cases hown

theorem tames_renderAll (hi : IncludesTame included) :
    (es : List Element) → Spared (Element.callsOf es) → ∀ s, Tames (renderAll included s es)
  | [], _, _ => .pure ""
  | e :: es, hes, s => by
    obtain ⟨he, hes⟩ := spared_append.mp hes
    simp only [renderAll]
    exact (tames_renderElement hi e he s).bind fun text =>
      (tames_renderAll hi es hes s).bind fun rest => .pure (text ++ rest)

theorem tames_renderDefinitions (hi : IncludesTame included) :
    (es : List Element) → Spared (Element.callsOf es) →
      ∀ s, Tames (renderDefinitions included s es)
  | [], _, _ => .pure ()
  | e :: es, hes, s => by
    obtain ⟨he, hes⟩ := spared_append.mp hes
    have hrest := tames_renderDefinitions hi es hes s
    simp only [renderDefinitions]
    split
    · exact (tames_renderElement hi e he s).bind fun _ => hrest
    · exact hrest

end

/-- The texts alone. -/
def Interleaving.texts (t : Interleaving) : String :=
  t.head.text ++ String.join (t.tail.map (·.2.text))

end Template

namespace Document

variable {d : Document} {env : Environment} {views : List SectionView}

end Document

/-- Options are evaluated wherever a call stands, so one that nobody reads may ask for them. -/
example : interpolate "\x7b\x7blen (eq 1 1 x=(fixed 1 70000))\x7d\x7d" {} =
    .error .tooManyPlaces := by
  decide +kernel

end AppDef
