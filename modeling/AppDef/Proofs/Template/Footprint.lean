import AppDef.Proofs.Dict
import AppDef.Proofs.Expr.Footprint
import AppDef.Proofs.Outcome

namespace AppDef

namespace Template

variable {hidden : String}

/-- The first name on a path. -/
def Path.head? (p : Path) : Option String :=
  (namesOf p.segments).head?

mutual

/-- A parameter is a path that starts with the name, or one without any names where it is taken as
a whole, or it comes from such a one. -/
def Param.asksFor (hidden : String) (whole : Bool) : Param → Bool
  | .name _ | .literal _ => false
  | .path p => p.head?.elim whole (· == hidden)
  | .call target args options =>
    target.asksFor hidden false || Param.anyAsksFor hidden args ||
      Param.anyOptionAsksFor hidden options

def Param.anyAsksFor (hidden : String) : List Param → Bool
  | [] => false
  | p :: ps => p.asksFor hidden true || Param.anyAsksFor hidden ps

def Param.anyOptionAsksFor (hidden : String) : List (String × Param) → Bool
  | [] => false
  | (_, p) :: options => p.asksFor hidden true || Param.anyOptionAsksFor hidden options

end

/-- What stands alone in a tag is shown, and an object is shown without its members. -/
def Call.asksFor (hidden : String) (call : Call) : Bool :=
  call.target.asksFor hidden false || Param.anyAsksFor hidden call.args ||
    Param.anyOptionAsksFor hidden call.options

mutual

def Element.asksFor (hidden : String) : Element → Bool
  | .text _ | .comment => false
  | .value call | .directive call => call.asksFor hidden
  | .block call _ body inverse =>
    call.asksFor hidden || Element.anyAsksFor hidden body || Element.anyAsksFor hidden inverse
  | .definition call body | .inclusion call _ body =>
    call.asksFor hidden || Element.anyAsksFor hidden body

def Element.anyAsksFor (hidden : String) : List Element → Bool
  | [] => false
  | e :: es => e.asksFor hidden || Element.anyAsksFor hidden es

end

theorem paramName_of_written {p : Param} {name : String} (h : p.written? = some name) (s : Scope) :
    paramName s p = .ok name := by
  simp only [paramName, Param.nameBy, h]

/-- The values are the same, or objects that differ in what they have under the name. -/
inductive Alike (hidden : String) : Json → Json → Prop
  | same (v : Json) : Alike hidden v v
  | object {ms ms' : List (String × Json)}
      (h : ∀ name, name ≠ hidden → ms.lookup name = ms'.lookup name) :
      Alike hidden (.object ms) (.object ms')

structure Block.Alike (hidden : String) (b b' : Block) : Prop where
  value : Template.Alike hidden b.value b'.value
  names : b.names = b'.names
  locals : b.locals = b'.locals

structure Scope.Alike (hidden : String) (s s' : Scope) : Prop where
  data : Template.Alike hidden s.data s'.data
  blocks : List.Forall₂ (Block.Alike hidden) s.blocks s'.blocks

/-- Steps out carry no names. -/
theorem namesOf_drop_countUps (segments : List Segment) :
    namesOf (segments.drop (countUps segments)) = namesOf segments := by
  induction segments with
  | nil => rfl
  | cons segment segments ih =>
    cases segment with
    | up => simpa [countUps, namesOf] using ih
    | root | «local» | named => rfl

theorem Block.Alike.refl (b : Block) : b.Alike hidden b :=
  ⟨.same _, rfl, rfl⟩

theorem Alike.shownValue {v v' : Json} (h : Alike hidden v v') : shownValue v = shownValue v' := by
  cases h with
  | same => rfl
  | object => simp only [Template.shownValue]

theorem Alike.descend {v v' : Json} {names : List String} {name : String} (h : Alike hidden v v')
    (hn : names.head? = some name) (hne : name ≠ hidden) :
    descend (some v) names = descend (some v') names := by
  cases h with
  | same => rfl
  | object h =>
    obtain ⟨names, rfl⟩ := List.head?_eq_some_iff.mp hn
    simp only [Template.descend, member, h name hne]

namespace Scope.Alike

variable {s s' : Scope}

theorem ofData {v v' : Json} (h : Template.Alike hidden v v') :
    (Scope.ofData v).Alike hidden (Scope.ofData v') :=
  ⟨h, .cons ⟨h, rfl, rfl⟩ .nil⟩

theorem enter (h : s.Alike hidden s') (b : Block) : (s.enter b).Alike hidden (s'.enter b) :=
  ⟨h.data, .cons (.refl b) h.blocks⟩

theorem value (h : s.Alike hidden s') : Template.Alike hidden s.value s'.value := by
  obtain ⟨data, blocks⟩ := s
  obtain ⟨data', blocks'⟩ := s'
  obtain ⟨hdata, hblocks⟩ := h
  cases hblocks with
  | nil => exact hdata
  | cons hb => exact hb.value

theorem bound? (h : s.Alike hidden s') (name : String) : s.bound? name = s'.bound? name := by
  have hblocks := h.blocks
  unfold Scope.bound?
  generalize s.blocks = blocks, s'.blocks = blocks' at hblocks ⊢
  induction hblocks with
  | nil => rfl
  | cons hb _ ih => simp only [List.findSome?_cons, hb.names, ih]

theorem block_at {bs bs' : List Block} (h : List.Forall₂ (Block.Alike hidden) bs bs') (n : Nat) :
    Option.Rel (Block.Alike hidden) bs[n]? bs'[n]? := by
  induction h generalizing n with
  | nil => exact .none
  | cons hb _ ih =>
    cases n with
    | zero => exact .some hb
    | succ n => exact ih n

theorem local? (h : s.Alike hidden s') (segments : List Segment) :
    s.local? segments = s'.local? segments := by
  have hblock := block_at h.blocks (countUps segments)
  unfold Scope.local?
  dsimp only
  split
  · generalize s.blocks[countUps segments]? = b?, s'.blocks[countUps segments]? = b'? at hblock ⊢
    cases hblock with
    | none => rfl
    | some hb => simp only [Option.bind_some, hb.locals]
  · rfl

theorem outer (h : s.Alike hidden s') (ups : Nat) :
    Template.Alike hidden (resolve.outer s ups) (resolve.outer s' ups) := by
  have hblock := block_at h.blocks ups
  unfold resolve.outer
  generalize s.blocks[ups]? = b?, s'.blocks[ups]? = b'? at hblock ⊢
  cases hblock with
  | none => exact h.value
  | some hb => exact hb.value

/-- Names that blocks bind stand for the same in both scopes. -/
theorem resolve_of_named (h : s.Alike hidden s') {segments : List Segment} {name : String}
    (hn : (namesOf segments).head? = some name) (hne : name ≠ hidden) :
    s.resolve segments = s'.resolve segments := by
  rw [← namesOf_drop_countUps] at hn
  have houter := h.outer (countUps segments)
  unfold resolve
  dsimp only
  split
  · rw [h.bound?]
    split
    · rfl
    · exact houter.descend hn hne
  · split
    · exact h.data.descend hn hne
    · exact houter.descend hn hne
  · split
    · rw [h.local?]
    · exact h.value.descend hn hne
  · exact houter.descend hn hne

theorem resolve_of_unnamed (h : s.Alike hidden s') {segments : List Segment}
    (hn : (namesOf segments).head? = none) :
    ∃ v v', s.resolve segments = .ok (some v) ∧ s'.resolve segments = .ok (some v') ∧
      Template.Alike hidden v v' := by
  have hnil := List.head?_eq_none_iff.mp hn
  have hrest := (namesOf_drop_countUps segments).trans hnil
  have houter := h.outer (countUps segments)
  unfold resolve
  dsimp only
  split
  · -- no name stands behind the steps out
    rename_i name below hdrop
    rw [hdrop] at hrest
    cases hrest
  · rw [hrest]
    split
    · exact ⟨_, _, rfl, rfl, h.data⟩
    · exact ⟨_, _, rfl, rfl, houter⟩
  · rename_i below after hdrop
    split
    · -- neither does one that what is known of a step would be looked up under
      rename_i name _ hnamed
      cases hdrop
      have hbelow : namesOf (below.drop (countUps below)) = [] :=
        (namesOf_drop_countUps below).trans hnil
      rw [hnamed] at hbelow
      cases hbelow
    · rw [hrest]
      exact ⟨_, _, rfl, rfl, h.value⟩
  · rw [hrest]
    exact ⟨_, _, rfl, rfl, houter⟩

mutual

theorem evalParam (h : s.Alike hidden s') :
    (p : Param) → p.asksFor hidden true = false → evalParam s p = evalParam s' p
  | .name _, _ => rfl
  | .literal _, _ => rfl
  | .path p, hp => by
    cases hn : p.head? with
    | none => simp [Param.asksFor, hn] at hp
    | some name =>
      have hne : name ≠ hidden := by simpa [Param.asksFor, hn] using hp
      exact h.resolve_of_named hn hne
  | .call target args options, hp => by
    obtain ⟨hboth, hoptions⟩ := Bool.or_eq_false_iff.mp hp
    obtain ⟨htarget, hargs⟩ := Bool.or_eq_false_iff.mp hboth
    -- a path names a helper by its text alone, so it may ask for anything there
    have hname : target.nameBy (Template.evalParam s target) =
        target.nameBy (Template.evalParam s' target) := by
      cases target with
      | name | path | literal => rfl
      | call inner given optional => rw [h.evalParam (.call inner given optional) htarget]
    simp only [Template.evalParam, hname, h.evalParams args hargs, h.evalOptions options hoptions]

theorem evalParams (h : s.Alike hidden s') :
    (ps : List Param) → Param.anyAsksFor hidden ps = false → evalParams s ps = evalParams s' ps
  | [], _ => rfl
  | p :: ps, hps => by
    obtain ⟨hp, hps⟩ := Bool.or_eq_false_iff.mp hps
    simp only [Template.evalParams, h.evalParam p hp, h.evalParams ps hps]

theorem evalOptions (h : s.Alike hidden s') :
    (options : List (String × Param)) → Param.anyOptionAsksFor hidden options = false →
      evalOptions s options = evalOptions s' options
  | [], _ => rfl
  | (name, p) :: options, ho => by
    obtain ⟨hp, ho⟩ := Bool.or_eq_false_iff.mp ho
    simp only [Template.evalOptions, h.evalParam p hp, h.evalOptions options ho]

end

theorem paramName (h : s.Alike hidden s') {p : Param} (hp : p.asksFor hidden false = false) :
    paramName s p = paramName s' p := by
  cases p with
  | name | path | literal => rfl
  | call target args options =>
    simp only [Template.paramName, h.evalParam (.call target args options) hp]

theorem evalArgs (h : s.Alike hidden s') {args : List Param}
    (ha : Param.anyAsksFor hidden args = false) :
    args.mapM (Template.evalParam s) = args.mapM (Template.evalParam s') := by
  induction args with
  | nil => rfl
  | cons p args ih =>
    obtain ⟨hp, hps⟩ := Bool.or_eq_false_iff.mp ha
    rw [List.mapM_cons, List.mapM_cons, h.evalParam _ hp, ih hps]

end Scope.Alike

/-- What a call does not ask for, none of its parts does. -/
theorem Call.asksFor_eq_false {call : Call} : call.asksFor hidden = false ↔
    call.target.asksFor hidden false = false ∧ Param.anyAsksFor hidden call.args = false ∧
      Param.anyOptionAsksFor hidden call.options = false := by
  simp [Call.asksFor, and_assoc]

namespace Scope.Alike

variable {s s' : Scope} {call : Call}

/-- What stands alone in a tag is shown alike, even if it is the data. -/
theorem shown (h : s.Alike hidden s') {p : Param} (hp : p.asksFor hidden false = false) :
    (do return shownValue ((← Template.evalParam s p).getD .null)) =
      (do return shownValue ((← Template.evalParam s' p).getD .null) : Except Fault String) := by
  cases p with
  | name | literal => rfl
  | call target args options => rw [h.evalParam (.call target args options) hp]
  | path p =>
    cases hn : p.head? with
    | some name =>
      have hne : name ≠ hidden := by simpa [Param.asksFor, hn] using hp
      simp only [Template.evalParam, h.resolve_of_named hn hne]
    | none =>
      obtain ⟨v, v', hv, hv', halike⟩ := h.resolve_of_unnamed hn
      simp [Template.evalParam, hv, hv', halike.shownValue]

theorem invoke (h : s.Alike hidden s') (hc : call.asksFor hidden = false) :
    call.invoke s = call.invoke s' := by
  obtain ⟨htarget, hargs, hoptions⟩ := Call.asksFor_eq_false.mp hc
  simp only [Call.invoke, h.paramName htarget, h.evalParams _ hargs, h.evalOptions _ hoptions]

theorem renderValue (h : s.Alike hidden s') (hc : call.asksFor hidden = false) :
    renderValue s call = renderValue s' call := by
  have htarget := (Call.asksFor_eq_false.mp hc).1
  simp only [Template.renderValue, h.paramName htarget, h.shown htarget, h.invoke hc]

end Scope.Alike

/-- Both fail alike, or they come to values that belong together. -/
inductive Matched {α : Type} (R : α → α → Prop) : Except Fault α → Except Fault α → Prop
  | ok {a a' : α} (h : R a a') : Matched R (.ok a) (.ok a')
  | error (fault : Fault) : Matched R (.error fault) (.error fault)

theorem Matched.bind {α β : Type} {R : α → α → Prop} (x : Except Fault β)
    {f f' : β → Except Fault α} (h : ∀ b, Matched R (f b) (f' b)) :
    Matched R (x >>= f) (x >>= f') := by
  cases x with
  | error fault => exact .error fault
  | ok b => exact h b

inductive Task.Alike (hidden : String) : Task → Task → Prop
  | body {s s' : Scope} (h : s.Alike hidden s') : Task.Alike hidden (.body s) (.body s')
  | inverse {s s' : Scope} (h : s.Alike hidden s') : Task.Alike hidden (.inverse s) (.inverse s')
  | text (text : String) : Task.Alike hidden (.text text) (.text text)

namespace Scope.Alike

variable {s s' : Scope} {call : Call}

theorem tasks (h : s.Alike hidden s') (hc : call.asksFor hidden = false) (names : List String) :
    Matched (List.Forall₂ (Task.Alike hidden)) (tasks s call names) (tasks s' call names) := by
  unfold Template.tasks
  rw [h.invoke hc]
  refine .bind _ fun i => ?_
  unfold Invocation.tasks
  split
  · exact .bind _ fun v => .ok (.cons (.text _) .nil)
  · split
    · exact .ok .nil
    · exact .error _
  · exact .ok (.cons (.body h) .nil)
  · exact .error _
  · dsimp only
    split
    · exact .ok (.cons (.body h) .nil)
    · exact .ok (.cons (.inverse h) .nil)
  · split
    · exact .ok (.cons (.inverse h) .nil)
    · refine .ok (List.forall₂_map_left_iff.mpr (List.forall₂_map_right_iff.mpr ?_))
      exact List.forall₂_same.mpr fun b _ => .body (h.enter _)
  · split
    · exact .ok (.cons (.inverse h) .nil)
    · exact .ok (.cons (.body (h.enter _)) .nil)

end Scope.Alike

/-- Options hide what an object has under their names. -/
theorem Alike.mergeOptions {v v' : Json} (h : Alike hidden v v') (options : List (String × Json)) :
    Alike hidden (mergeOptions v options) (mergeOptions v' options) := by
  cases h with
  | same => exact .same _
  | @object ms ms' h =>
    refine .object ?_
    change ∀ name, name ≠ hidden →
      (options.foldl (fun ms o => Members.insert o.1 o.2 ms) ms).lookup name =
        (options.foldl (fun ms o => Members.insert o.1 o.2 ms) ms').lookup name
    induction options generalizing ms ms' with
    | nil => exact h
    | cons o options ih =>
      refine ih fun name hne => ?_
      rw [Members.lookup_insert, Members.lookup_insert, h name hne]

namespace Scope.Alike

variable {s s' : Scope} {call : Call}

theorem at_value (h : s.Alike hidden s') {v v' : Json} (hv : Template.Alike hidden v v') :
    Scope.Alike hidden { s with blocks := [⟨v, [], []⟩] } { s' with blocks := [⟨v', [], []⟩] } :=
  ⟨h.data, .cons ⟨hv, rfl, rfl⟩ .nil⟩

theorem inclusionScope (h : s.Alike hidden s') (hc : call.asksFor hidden = false) :
    Matched (Scope.Alike hidden) (inclusionScope s call) (inclusionScope s' call) := by
  obtain ⟨-, hargs, hoptions⟩ := Call.asksFor_eq_false.mp hc
  unfold Template.inclusionScope
  rw [h.evalArgs hargs, h.evalOptions _ hoptions]
  refine .bind _ fun args => .bind _ fun options => ?_
  dsimp only
  split
  · split
    · exact .ok (h.at_value (.same _))
    · exact .ok h
  · refine .ok (h.at_value (Template.Alike.mergeOptions ?_ options))
    split
    · exact h.value
    · exact .same _

end Scope.Alike

/-- No body that was defined asks for the name. -/
def Bodies.Silent (hidden : String) (bodies : Bodies) : Prop :=
  ∀ name body, bodies.get? name = some body → Element.anyAsksFor hidden body = false

namespace Bodies.Silent

variable {bodies : Bodies}

theorem empty : Silent hidden {} := by
  intro name body h
  cases h

theorem insert (h : Silent hidden bodies) {body : List Element}
    (hb : Element.anyAsksFor hidden body = false) (name : String) :
    Silent hidden (Dict.insert bodies name body) :=
  Dict.forall_insert h hb name

theorem erase (h : Silent hidden bodies) (name : String) :
    Silent hidden (Dict.erase bodies name) :=
  Dict.forall_erase h name

end Bodies.Silent

/-- Among bodies that do not ask for the name the renderings come to the same, and they leave such
bodies behind. -/
def RendersAlike {α : Type} (hidden : String) (r r' : Render α) : Prop :=
  ∀ bodies, Bodies.Silent hidden bodies → r bodies = r' bodies ∧
    ∀ a after, r bodies = .ok (a, after) → Bodies.Silent hidden after

namespace RendersAlike

variable {α β : Type}

theorem pure (a : α) : RendersAlike hidden (pure a) (pure a) := by
  intro bodies hb
  refine ⟨rfl, fun a' after h => ?_⟩
  cases h
  exact hb

theorem fail (fault : Fault) : RendersAlike hidden (fail fault : Render α) (fail fault) := by
  intro bodies hb
  refine ⟨rfl, fun a after h => ?_⟩
  cases h

theorem bind {r r' : Render α} {f f' : α → Render β} (h : RendersAlike hidden r r')
    (hf : ∀ a, RendersAlike hidden (f a) (f' a)) : RendersAlike hidden (r >>= f) (r' >>= f') := by
  intro bodies hb
  obtain ⟨heq, hafter⟩ := h bodies hb
  have hbind (r : Render α) (f : α → Render β) :
      (r >>= f) bodies = r bodies >>= fun p => f p.1 p.2 := rfl
  rw [hbind, hbind, ← heq]
  cases hr : r bodies with
  | error fault =>
    refine ⟨rfl, fun b after h => ?_⟩
    cases h
  | ok p => exact hf p.1 p.2 (hafter p.1 p.2 hr)

theorem outcome (x : Except Fault α) : RendersAlike hidden (x : Render α) x := by
  cases x with
  | error fault => exact fail fault
  | ok a => exact pure a

theorem lift {x x' : Except Fault α} {R : α → α → Prop} {f f' : α → Render β}
    (h : Matched R x x') (hf : ∀ a a', R a a' → RendersAlike hidden (f a) (f' a')) :
    RendersAlike hidden (do f (← x)) (do f' (← x')) := by
  cases h with
  | error fault => exact fail fault
  | ok h => exact hf _ _ h

theorem lift_same (x : Except Fault α) {f f' : α → Render β}
    (hf : ∀ a, RendersAlike hidden (f a) (f' a)) :
    RendersAlike hidden (do f (← x)) (do f' (← x)) := by
  cases x with
  | error fault => exact fail fault
  | ok a => exact hf a

theorem get {f f' : Bodies → Render α}
    (hf : ∀ bodies, Bodies.Silent hidden bodies → RendersAlike hidden (f bodies) (f' bodies)) :
    RendersAlike hidden (get >>= f) (get >>= f') :=
  fun bodies hb => hf bodies hb bodies hb

theorem modify {f : Bodies → Bodies}
    (hf : ∀ bodies, Bodies.Silent hidden bodies → Bodies.Silent hidden (f bodies)) :
    RendersAlike hidden (modify f : Render Unit) (modify f) := by
  intro bodies hb
  refine ⟨rfl, fun a after h => ?_⟩
  cases h
  exact hf bodies hb

end RendersAlike

/-- Included bodies are rendered alike, if they do not ask for the name. -/
def IncludesAlike (hidden : String) (included : Include) : Prop :=
  ∀ s s', s.Alike hidden s' → ∀ body, Element.anyAsksFor hidden body = false →
    RendersAlike hidden (included s body) (included s' body)

theorem withOwnBody_alike {body? : Option (List Element)} {r r' : Render String}
    (hbody : ∀ body, body? = some body → Element.anyAsksFor hidden body = false)
    (h : RendersAlike hidden r r') :
    RendersAlike hidden (withOwnBody body? r) (withOwnBody body? r') := by
  cases body? with
  | none => exact h
  | some body =>
    refine .get fun bodies hb => .bind (.modify fun _ hb => hb.insert (hbody body rfl) _) fun _ =>
      h.bind fun text => .bind (.modify fun _ hafter => ?_) fun _ => .pure text
    split
    · rename_i before hbefore
      exact hafter.insert (hb _ before hbefore) _
    · exact hafter.erase _

/-- What holds of all bodies that were defined and of the one that is brought along holds of the one
that is included. -/
theorem forall_included {P : List Element → Prop} {bodies : Bodies} {name : String}
    {own? : Option (List Element)} {body : List Element}
    (hb : ∀ name body, bodies.get? name = some body → P body)
    (hown : ∀ body, own? = some body → P body)
    (h : ((bodies.get? name).orElse fun _ => own?) = some body) : P body := by
  cases hget : bodies.get? name with
  | some body' =>
    rw [hget] at h
    cases h
    exact hb name body hget
  | none =>
    rw [hget] at h
    exact hown body h

theorem Scope.Alike.renderInclusion {s s' : Scope} {included : Include}
    {own? : Option (List Element)} (hi : IncludesAlike hidden included) (h : s.Alike hidden s')
    (name : String) (hown : ∀ body, own? = some body → Element.anyAsksFor hidden body = false) :
    RendersAlike hidden (renderInclusion included s name own?)
      (renderInclusion included s' name own?) := by
  refine .get fun bodies hb => ?_
  split
  · rename_i body hbody
    exact withOwnBody_alike hown (hi s s' h body (forall_included hb hown hbody))
  · exact .fail _

theorem Scope.Alike.definedName {s s' : Scope} {call : Call} (h : s.Alike hidden s')
    (hc : call.asksFor hidden = false) : definedName s call = definedName s' call := by
  obtain ⟨htarget, hargs, hoptions⟩ := Call.asksFor_eq_false.mp hc
  unfold Template.definedName
  rw [h.paramName htarget, h.evalParams _ hargs, h.evalOptions _ hoptions]

/-- Tasks are carried out in turn. -/
theorem foldlM_alike {todo todo' : List Task} {f f' : String → Task → Render String}
    (h : List.Forall₂ (Task.Alike hidden) todo todo')
    (hf : ∀ done task task', Task.Alike hidden task task' →
      RendersAlike hidden (f done task) (f' done task')) (done : String) :
    RendersAlike hidden (todo.foldlM f done) (todo'.foldlM f' done) := by
  induction h generalizing done with
  | nil => exact .pure done
  | cons htask _ ih =>
    simp only [List.foldlM_cons]
    exact .bind (hf done _ _ htask) ih

variable {included : Include}

mutual

theorem renderElement_alike (hi : IncludesAlike hidden included) :
    (e : Element) → e.asksFor hidden = false → ∀ s s', s.Alike hidden s' →
      RendersAlike hidden (renderElement included s e) (renderElement included s' e)
  | .text t, _, _, _, _ => .pure t
  | .comment, _, _, _, _ => .pure ""
  | .value call, he, s, s', h => by
    simp only [renderElement, h.renderValue he]
    exact .outcome _
  | .directive call, he, s, s', h => by
    simp only [renderElement, h.definedName he]
    exact .lift_same _ fun _ => .fail .refused
  | .block call names body inverse, he, s, s', h => by
    obtain ⟨hboth, hinverse⟩ := Bool.or_eq_false_iff.mp he
    obtain ⟨hcall, hbody⟩ := Bool.or_eq_false_iff.mp hboth
    simp only [renderElement]
    refine .lift (h.tasks hcall names) fun todo todo' htodo => ?_
    refine foldlM_alike htodo (fun done task task' htask => ?_) ""
    cases htask with
    | text t => exact .pure (done ++ t)
    | body h => exact .bind (renderAll_alike hi body hbody _ _ h) fun text => .pure (done ++ text)
    | inverse h =>
      exact .bind (renderAll_alike hi inverse hinverse _ _ h) fun text => .pure (done ++ text)
  | .definition call body, he, s, s', h => by
    obtain ⟨hcall, hbody⟩ := Bool.or_eq_false_iff.mp he
    simp only [renderElement, h.definedName hcall]
    refine .lift_same _ fun name => .bind (.modify fun _ hb => ?_) fun _ => .pure ""
    exact hb.insert hbody name
  | .inclusion call own body, he, s, s', h => by
    obtain ⟨hcall, hbody⟩ := Bool.or_eq_false_iff.mp he
    simp only [renderElement, h.paramName (Call.asksFor_eq_false.mp hcall).1]
    refine .lift_same _ fun name => .lift (h.inclusionScope hcall) fun inner inner' hinner => ?_
    split
    · refine .bind (renderDefinitions_alike hi body hbody s s' h) fun _ =>
        hinner.renderInclusion hi name fun _ hown => ?_
      cases hown
      exact hbody
    · refine hinner.renderInclusion hi name fun _ hown => ?_
      cases hown

theorem renderAll_alike (hi : IncludesAlike hidden included) :
    (es : List Element) → Element.anyAsksFor hidden es = false → ∀ s s', s.Alike hidden s' →
      RendersAlike hidden (renderAll included s es) (renderAll included s' es)
  | [], _, _, _, _ => .pure ""
  | e :: es, hes, s, s', h => by
    obtain ⟨he, hes⟩ := Bool.or_eq_false_iff.mp hes
    simp only [renderAll]
    exact .bind (renderElement_alike hi e he s s' h) fun text =>
      .bind (renderAll_alike hi es hes s s' h) fun rest => .pure _

theorem renderDefinitions_alike (hi : IncludesAlike hidden included) :
    (es : List Element) → Element.anyAsksFor hidden es = false → ∀ s s', s.Alike hidden s' →
      RendersAlike hidden (renderDefinitions included s es) (renderDefinitions included s' es)
  | [], _, _, _, _ => .pure ()
  | e :: es, hes, s, s', h => by
    obtain ⟨he, hes⟩ := Bool.or_eq_false_iff.mp hes
    simp only [renderDefinitions]
    have hrest := renderDefinitions_alike hi es hes s s' h
    split
    · exact .bind (renderElement_alike hi e he s s' h) fun _ => hrest
    · exact hrest

end

namespace Placeholder

/-- The names of the placeholders behind the first `skip` characters of a text. -/
def namesFrom : (skip : Nat) → List Char → List String
  | _, [] => []
  | skip + 1, _ :: s => namesFrom skip s
  | 0, c :: s =>
    match read? (c :: s) with
    | some (name, rest) => name :: namesFrom (s.length - rest.length) s
    | none => namesFrom 0 s

end Placeholder

/-- A text asks for the name as a template, or by a placeholder when it is treated as plain
text. -/
def asksFor (hidden template : String) : Bool :=
  (parse template.toList).any (Element.anyAsksFor hidden) ||
    (Placeholder.namesFrom 0 template.toList).contains hidden

theorem lookup_data (env : Environment) (name : String) :
    (env.entries.map fun e => (e.1, dataValue e.2)).lookup name =
      (env.get? name).map dataValue := by
  unfold Dict.get?
  induction env.entries with
  | nil => rfl
  | cons e l ih =>
    rw [List.map_cons, Members.lookup_cons, Members.lookup_cons, ih]
    split <;> rfl

end Template

end AppDef
