import AppDef.Proofs.Pattern.Groups

namespace AppDef.Pattern

open Text Parse Cursor

variable {K : Prop} {u : List Char} {c : Cursor} {n m k : Nat} {g : Groups}

/-- The group that is open when the pattern begins. -/
def opened : GroupFrame :=
  .group [.assertion ⟨⟨1, 1⟩, ⟨1, 2⟩⟩ .startLine] ⟨1, 1⟩ ⟨⟨1, 2⟩, ⟨1, 3⟩⟩ [] false

instance : Placed Groups := ⟨fun g => ⟨moved g.frames ++ [opened], moved g.parts⟩⟩

/-- Blanks counted wherever one of the open groups was opened. -/
def Groups.Quiet (g : Groups) : Prop :=
  ∀ before start span items, .group before start span items true ∉ g.frames

theorem follows_openGroup (hc : c.Ready K) (hne : c.rest ≠ []) :
    Follows K False ['$'] 1 c ((openGroup g).run c) ((openGroup (moved g)).run c.embedded) := by
  unfold openGroup
  refine (follows_groupStart hc hne).bind_at (fun opening c' he h _ => ?_) False.elim
    fun _ _ => Parse.lost _
  have hreach (ignoreSpace : Bool) (hi : ignoreSpace = (flagState .ignoreSpace opening.items).getD
      c'.ignoreSpace) : c.Reaches 1 { c' with ignoreSpace } := by
    refine ⟨⟨h.rest, h.shorter, h.line⟩, fun hq => ?_⟩
    have hitems : .flag .ignoreSpace ∉ opening.items := fun hmem =>
      hq.rest (mem_of_groupStart he hmem)
    rw [hi, flagState_eq_none hitems]
    exact h.ignoreSpace hq
  cases opening with
  | flags ast items =>
    exact Follows.same (a := (⟨g.frames, g.parts.start, ast :: g.parts.parts⟩ : Groups))
      (hreach _ rfl) False.elim
  | group span items =>
    exact Follows.same (a := (⟨.group g.parts.parts g.parts.start span items c'.ignoreSpace ::
      g.frames, c'.place, []⟩ : Groups)) (hreach _ rfl) False.elim

theorem Groups.branch_moved (g : Groups) (stop here : Place) :
    (moved g).branch (moved stop) (moved here) = moved (g.branch stop here) := by
  have htoAst : (moved g.parts).toAst (moved stop) = moved (g.parts.toAst stop) :=
    Parts.toAst_moved g.parts stop
  obtain ⟨frames, parts⟩ := g
  match frames with
  | [] => exact congrArg (fun a => Groups.mk [.alternation _ [a], opened] _) htoAst
  | .group before start span items ignoreSpace :: frames =>
    exact congrArg (fun a => Groups.mk (.alternation _ [a] :: _) _) htoAst
  | .alternation start branches :: frames =>
    exact congrArg (fun a => Groups.mk (.alternation _ (a :: _) :: _) _) htoAst

theorem follows_addBranch (hc : c.Ready K) (hne : c.rest ≠ []) :
    Follows K False u 1 c ((addBranch g).run c) ((addBranch (moved g)).run c.embedded) := by
  unfold addBranch
  simp only [run_place_bind]
  refine Follows.bump hc hne fun _ => ?_
  rw [run_place_bind, run_place_bind]
  change Follows K False u 0 c.bump _
    (.ok ((moved g).branch (moved c.place) (moved c.bump.place), c.bump.embedded))
  rw [Groups.branch_moved]
  exact .here (g.branch c.place c.bump.place)

theorem Groups.body_moved (g : Groups) (stop : Place) :
    (moved g).body (moved stop) = (moved (g.body stop).1, moved (g.body stop).2 ++ [opened]) := by
  have htoAst : (moved g.parts).toAst (moved stop) = moved (g.parts.toAst stop) :=
    Parts.toAst_moved g.parts stop
  obtain ⟨frames, parts⟩ := g
  match frames with
  | [] => exact congrArg (·, [opened]) htoAst
  | .group before start span items ignoreSpace :: frames => exact congrArg (·, _) htoAst
  | .alternation start branches :: frames =>
    have hbranches : (moved branches).reverse ++ [(moved parts).toAst (moved stop)] =
        moved (branches.reverse ++ [parts.toAst stop]) := by
      change (List.map moved branches).reverse ++ _ = List.map moved (branches.reverse ++ _)
      rw [List.map_append, List.map_reverse, htoAst]
      rfl
    exact congrArg (·, moved frames ++ [opened])
      ((congrArg (Ast.alternation (moved ⟨start, stop⟩)) hbranches).trans
        (Ast.alternation_moved ⟨start, stop⟩ _))

theorem Groups.body_suffix (g : Groups) (stop : Place) : (g.body stop).2 <:+ g.frames := by
  unfold body
  split
  · rename_i heq
    exact heq ▸ List.suffix_cons _ _
  · exact List.suffix_refl _

theorem Groups.quiet_branch (hg : g.Quiet) (stop here : Place) : (g.branch stop here).Quiet := by
  intro before start span items hmem
  obtain ⟨frames, parts⟩ := g
  match frames with
  | [] => simp [branch] at hmem
  | .alternation first branches :: frames =>
    refine hg before start span items ?_
    simpa [branch] using hmem
  | .group _ _ _ _ _ :: frames =>
    refine hg before start span items ?_
    simpa [branch] using hmem

/-- Where no flag can change that, the start of a group leaves blanks as they are. -/
theorem ignoreSpace_groupStart {opening : GroupStart} {c' : Cursor} (hl : 1 ≤ c.place.line)
    (hne : c.rest ≠ []) (hc : c.Quiet) (h : groupStart.run c = .ok (opening, c')) :
    c'.ignoreSpace = false := by
  have hfollows := follows_groupStart (K := True) ⟨hl, fun _ => .inr hc⟩ hne
  rw [h] at hfollows
  generalize groupStart.run c.embedded = r₂ at hfollows
  cases hfollows with
  | same h _ => exact h.ignoreSpace hc
  | lost _ h₁ => exact (h₁ _ _ rfl trivial).1.elim

theorem Groups.Quiet.of_openGroup {g' : Groups} {c' : Cursor} (hg : g.Quiet)
    (hl : 1 ≤ c.place.line) (hne : c.rest ≠ []) (hc : c.Quiet)
    (h : (openGroup g).run c = .ok (g', c')) : g'.Quiet := by
  unfold openGroup at h
  rw [run_bind] at h
  cases hs : groupStart.run c with
  | error e => simp [hs] at h
  | ok p =>
    have hi := ignoreSpace_groupStart hl hne hc hs
    rw [hs] at h
    obtain ⟨opening, c₁⟩ := p
    cases opening with
    | flags ast items =>
      cases h
      exact hg
    | group span items =>
      cases h
      intro before start span' items' hmem
      rcases List.mem_cons.mp hmem with heq | hmem
      · simp only [GroupFrame.group.injEq] at heq
        exact Bool.noConfusion (heq.2.2.2.2.trans hi)
      · exact hg before start span' items' hmem

def GroupFrame.isGroup : GroupFrame → Bool
  | .group _ _ _ _ _ => true
  | .alternation _ _ => false

/-- A group is open. -/
def Groups.Enclosed (g : Groups) : Prop :=
  g.frames.any GroupFrame.isGroup = true

theorem Groups.enclosed_moved (g : Groups) : (moved g).Enclosed := by
  simp [Enclosed, moved, opened, GroupFrame.isGroup]

theorem finish_of_enclosed (h : g.Enclosed) (c : Cursor) : ∃ e, (finish g).run c = .error e := by
  unfold finish
  rw [run_place_bind]
  obtain ⟨frames, parts⟩ := g
  match frames with
  | [] => cases h
  | [.alternation start branches] => cases h
  | .alternation start branches :: frame :: frames => exact ⟨_, rfl⟩
  | .group before start span items ignoreSpace :: frames => exact ⟨_, rfl⟩

theorem Groups.Enclosed.of_openGroup {g' : Groups} {c' : Cursor} (hg : g.Enclosed)
    (h : (openGroup g).run c = .ok (g', c')) : g'.Enclosed := by
  unfold openGroup at h
  rw [run_bind] at h
  cases hs : groupStart.run c with
  | error e => simp [hs] at h
  | ok p =>
    rw [hs] at h
    obtain ⟨start, c₁⟩ := p
    cases start with
    | flags ast items =>
      cases h
      exact hg
    | group span items =>
      cases h
      rfl

theorem Groups.enclosed_branch (hg : g.Enclosed) (stop here : Place) :
    (g.branch stop here).Enclosed := by
  obtain ⟨frames, parts⟩ := g
  match frames with
  | [] => cases hg
  | .alternation start branches :: frames => exact hg
  | .group before start span items ignoreSpace :: frames => rfl

/-- A step keeps a group open, if it does not close one. -/
theorem step_enclosed {d : Char} {g' : Groups} {c' : Cursor} (hd : d ≠ ')') (hg : g.Enclosed)
    (h : (step d g).run c = .ok (g', c')) : g'.Enclosed := by
  unfold step at h
  split at h
  · exact hg.of_openGroup h
  · exact absurd rfl hd
  · cases h
    exact Groups.enclosed_branch hg _ _
  · rw [run_bind] at h
    cases hp : (part d g.parts.parts).run c with
    | error e => simp [hp] at h
    | ok p =>
      rw [hp] at h
      cases h
      exact hg

/-- Behind the closing parenthesis no group is closed. -/
theorem loop_of_dollar (h : c.skipSpace.rest <:+ ['$']) (hg : g.Enclosed) :
    ∃ e, (loop n g).run c = .error e := by
  induction n generalizing c g with
  | zero => exact finish_of_enclosed hg c
  | succ n ih =>
    unfold loop
    rw [run_skipSpace_bind, run_next_bind]
    cases hr : c.skipSpace.rest with
    | nil => exact finish_of_enclosed hg c.skipSpace
    | cons d r =>
      have hd : d = '$' := by
        rw [hr] at h
        simpa using h.subset List.mem_cons_self
      subst hd
      rw [List.head?_cons]
      dsimp only
      rw [run_bind]
      cases hs : (step '$' g).run c.skipSpace with
      | error e => exact ⟨e, rfl⟩
      | ok p =>
        exact ih ((p.2.skipSpace_suffix.trans ((step '$' g).forward hs)).trans h)
          (step_enclosed (by decide) hg hs)

/-- All that a step of the second reading can do when the first reading makes the same step. -/
inductive StepFollows (K : Prop) (c : Cursor) (g : Groups) :
    Reading Groups → Reading Groups → Prop
  | same {g' : Groups} {c' : Cursor} (h : c.Precedes 1 c')
      (hq : c.Quiet → g.Quiet → c'.Quiet ∧ g'.Quiet) :
      StepFollows K c g (.ok (g', c')) (.ok (moved g', c'.embedded))
  | lost {r₁ r₂ : Reading Groups} (h₂ : ∀ g c', r₂ = .ok (g, c') → g.Enclosed ∧ c'.rest <:+ ['$'])
      (h₁ : K → ∃ e, r₁ = .error e) : StepFollows K c g r₁ r₂
  | stray {e : SyntaxError} {c' : Cursor} (g' : Groups) (h : c.Reaches 1 c') (hs : c'.Stray) :
      StepFollows K c g (.error e) (.ok (moved g', c'.embedded))
  | unopened {e : SyntaxError} {r₂ : Reading Groups} (h : e.fault = .groupUnopened) :
      StepFollows K c g (.error e) r₂

theorem Follows.stepFollows {r₁ r₂ : Reading Groups} (h : Follows K False ['$'] 1 c r₁ r₂)
    (hg : ∀ g c', r₂ = .ok (g, c') → g.Enclosed)
    (hq : ∀ g' c', r₁ = .ok (g', c') → c.Quiet → g.Quiet → g'.Quiet) :
    StepFollows K c g r₁ r₂ := by
  cases h with
  | same h _ => exact .same h.toPrecedes fun hc hg' => ⟨h.quiet hc, hq _ _ rfl hc hg'⟩
  | lost h₂ h₁ =>
    refine .lost (fun g c' he => ⟨hg g c' he, h₂ g c' he⟩) fun hK => ?_
    cases r₁ with
    | error e => exact ⟨e, rfl⟩
    | ok p => exact (h₁ p.1 p.2 rfl hK).1.elim

theorem run_closeGroup {body : Ast} {before : List Ast} {start : Place} {span : Span}
    {items : List FlagItem} {ignoreSpace : Bool} {frames : List GroupFrame}
    (h : g.body c.place = (body, .group before start span items ignoreSpace :: frames)) :
    (closeGroup g).run c = .ok
      (⟨frames, start, .group ⟨span.start, { c with ignoreSpace }.bump.place⟩ items body :: before⟩,
        { c with ignoreSpace }.bump) := by
  unfold closeGroup
  rw [run_place_bind, h]
  rfl

theorem stepFollows_closeGroup (hc : c.Ready K) (hne : c.rest ≠ []) :
    StepFollows K c g ((closeGroup g).run c) ((closeGroup (moved g)).run c.embedded) := by
  have hmoved : (moved g).body c.embedded.place = _ := Groups.body_moved g c.place
  have hunopened (h : ∀ before start span items ignoreSpace frames,
      (g.body c.place).2 ≠ .group before start span items ignoreSpace :: frames) :
      ∃ e, (closeGroup g).run c = .error e ∧ e.fault = .groupUnopened := by
    unfold closeGroup
    rw [run_place_bind]
    split
    · rename_i heq
      exact absurd (congrArg Prod.snd heq) (h _ _ _ _ _ _)
    · exact ⟨_, rfl, rfl⟩
  cases hbody : g.body c.place with
  | mk body frames =>
    rw [hbody] at hmoved hunopened
    match frames with
    | [] =>
      obtain ⟨e, he, hfault⟩ := hunopened (by simp)
      exact he ▸ .unopened hfault
    | .alternation start branches :: frames =>
      obtain ⟨e, he, hfault⟩ := hunopened (by simp)
      exact he ▸ .unopened hfault
    | .group before start span items ignoreSpace :: frames =>
      have hbump : { c.embedded with ignoreSpace }.bump = { c with ignoreSpace }.bump.embedded :=
        bump_embedded (c := { c with ignoreSpace }) hne hc.line
      have hr := reaches_bump (c := { c with ignoreSpace }) hne
      rw [run_closeGroup hbody, run_closeGroup hmoved, hbump]
      have hframes :
          GroupFrame.group before start span items ignoreSpace :: frames <:+ g.frames := by
        have hsuffix := g.body_suffix c.place
        rwa [hbody] at hsuffix
      refine StepFollows.same ⟨hr.rest, hr.shorter, hr.line⟩ fun hc hg => ⟨⟨?_, ?_⟩, ?_⟩
      · rw [ignoreSpace_bump]
        cases ignoreSpace with
        | false => rfl
        | true => exact absurd (hframes.subset List.mem_cons_self) (hg before start span items)
      · exact fun hx => hc.rest (hr.rest.subset hx)
      · exact fun before start span items hmem =>
          hg before start span items (hframes.subset (List.mem_cons_of_mem _ hmem))

/-- The parts since the last opening, read on. -/
def Groups.extend (g : Groups) (x : Parse (List Ast)) : Parse Groups := do
  return ⟨g.frames, g.parts.start, ← x⟩

theorem frames_of_extend {x : Parse (List Ast)} {g' : Groups} {c' : Cursor}
    (h : (g.extend x).run c = .ok (g', c')) : g'.frames = g.frames := by
  unfold Groups.extend at h
  rw [run_bind] at h
  cases hx : x.run c with
  | error e => simp [hx] at h
  | ok p =>
    rw [hx] at h
    cases h
    rfl

theorem stepFollows_extend {x₁ x₂ : Parse (List Ast)}
    (h : Follows K False ['$'] 1 c (x₁.run c) (x₂.run c.embedded)) :
    StepFollows K c g ((g.extend x₁).run c) (((moved g).extend x₂).run c.embedded) := by
  have hmap : Follows K False ['$'] 1 c ((g.extend x₁).run c)
      (((moved g).extend x₂).run c.embedded) := by
    unfold Groups.extend
    exact h.map fun _ => rfl
  refine hmap.stepFollows (fun g' _ he => ?_) fun g' _ he _ hg => ?_
  · rw [Groups.Enclosed, frames_of_extend he]
    exact g.enclosed_moved
  · rw [Groups.Quiet, frames_of_extend he]
    exact hg

/-- A brace that is left behind a word boundary is refused in the next step. -/
theorem stepFollows_primitive (hc : c.Ready K) (hne : c.rest ≠ []) (parts : List Ast) :
    StepFollows K c g ((g.extend (primitive >>= fun p => pure (p.toAst :: parts))).run c)
      (((moved g).extend (primitive >>= fun p => pure (p.toAst :: moved parts))).run
        c.embedded) := by
  have h := follows_primitive hc hne
  generalize hr₁ : primitive.run c = r₁, hr₂ : primitive.run c.embedded = r₂ at h
  cases h with
  | follows h =>
    rw [← hr₁, ← hr₂] at h
    refine stepFollows_extend (h.map fun p => ?_)
    exact congrArg (· :: moved parts) p.toAst_moved
  | stray span h hs =>
    have hrefused : (g.extend (primitive >>= fun p => pure (p.toAst :: parts))).run c = .error _ :=
      run_bind_error (run_bind_error hr₁ _) _
    rw [hrefused, Groups.extend, run_bind, run_bind, hr₂]
    exact .stray ⟨g.frames, g.parts.start, .assertion span .wordBoundary :: parts⟩ h hs

theorem stepFollows_step {d : Char} (hc : c.Ready K) (hne : c.rest ≠ []) :
    StepFollows K c g ((step d g).run c) ((step d (moved g)).run c.embedded) := by
  have hbracketed : Follows K False ['$'] 1 c
      ((bracketed >>= fun a => pure (a :: g.parts.parts)).run c)
      ((bracketed >>= fun a => pure (a :: (moved g).parts.parts)).run c.embedded) :=
    (follows_bracketed hc).map fun _ => rfl
  unfold step
  split
  · exact (follows_openGroup hc hne).stepFollows
      (fun _ _ he => g.enclosed_moved.of_openGroup he)
      fun _ _ he hquiet hg => hg.of_openGroup hc.line hne hquiet he
  · exact stepFollows_closeGroup hc hne
  · refine (follows_addBranch hc hne).stepFollows
      (fun _ _ he => step_enclosed (d := '|') (by decide) g.enclosed_moved he)
      fun g' c' he _ hg => ?_
    cases he
    exact Groups.quiet_branch hg _ _
  · unfold part
    split
    · exact stepFollows_extend hbracketed
    · exact stepFollows_extend (follows_signRepetition hc hne)
    · exact stepFollows_extend (follows_signRepetition hc hne)
    · exact stepFollows_extend (follows_signRepetition hc hne)
    · exact stepFollows_extend (follows_countRepetition _ hc hne)
    · exact stepFollows_primitive hc hne _

/-- What is put around a pattern, as it is read. -/
def Ast.around (start open_ group stop : Span) (a : Ast) : Ast :=
  .concat start [.assertion open_ .startLine, .group group [] a, .assertion stop .endLine]

/-- All that the second reading can come to. -/
inductive WholeFollows (K : Prop) : Reading Ast → Reading Ast → Prop
  | same {a : Ast} {c d : Cursor} (start open_ group stop : Span) :
      WholeFollows K (.ok (a, c)) (.ok (Ast.around start open_ group stop (moved a), d))
  | refused {r₁ : Reading Ast} {e : SyntaxError} (h : K → ∃ e, r₁ = .error e) :
      WholeFollows K r₁ (.error e)
  | unopened {e : SyntaxError} {r₂ : Reading Ast} (h : e.fault = .groupUnopened) :
      WholeFollows K (.error e) r₂

/-- The end of the text is asked for behind the group. -/
theorem loop_of_last {start : Place} {parts : List Ast} (h : c.rest = ['$'])
    (hi : c.ignoreSpace = false) : ∃ span stop d, (loop (n + 2) ⟨[], start, parts⟩).run c =
      .ok (Ast.ofParts ⟨start, stop⟩ (.assertion span .endLine :: parts).reverse, d) := by
  obtain ⟨rest, place, ignoreSpace, groupNames⟩ := c
  subst h hi
  exact ⟨_, _, _, rfl⟩

/-- At the end of the pattern its group is closed, unless another one is open. -/
theorem wholeFollows_of_end (h : c.rest = []) :
    WholeFollows K ((finish g).run c) ((step ')' (moved g) >>= loop (n + 2)).run c.embedded) := by
  have hmoved : (moved g).body c.embedded.place = _ := Groups.body_moved g c.place
  have hbump (ignoreSpace : Bool) : { c.embedded with ignoreSpace }.bump.rest = ['$'] := by
    rw [rest_bump]
    exact congrArg List.tail (rest_embedded_of_end h)
  cases hbody : g.body c.place with
  | mk body frames =>
    rw [hbody] at hmoved
    match frames with
    | [] =>
      have hfinish : (finish g).run c = .ok (body, c) := by
        unfold finish
        rw [run_place_bind, hbody]
        rfl
      have hstep : (step ')' (moved g)).run c.embedded = .ok _ := run_closeGroup hmoved
      obtain ⟨span, stop, d, hloop⟩ := loop_of_last (hbump false) (ignoreSpace_bump _)
      rw [hfinish, run_bind, hstep]
      dsimp only
      rw [hloop]
      exact .same _ _ _ _
    | frame :: frames =>
      have hfinish : ∃ e, (finish g).run c = .error e := by
        unfold finish
        rw [run_place_bind, hbody]
        exact ⟨_, rfl⟩
      suffices hbehind : ∃ e, (step ')' (moved g) >>= loop (n + 2)).run c.embedded = .error e by
        obtain ⟨e, he⟩ := hbehind
        rw [he]
        exact .refused fun _ => hfinish
      cases frame with
      | alternation start branches =>
        have hstep : ∃ e, (step ')' (moved g)).run c.embedded = .error e := by
          change ∃ e, (closeGroup (moved g)).run c.embedded = .error e
          unfold closeGroup
          rw [run_place_bind, hmoved]
          exact ⟨_, rfl⟩
        obtain ⟨e, he⟩ := hstep
        exact ⟨e, run_bind_error he _⟩
      | group before start span items ignoreSpace =>
        have hstep : (step ')' (moved g)).run c.embedded = .ok _ := run_closeGroup hmoved
        rw [run_bind, hstep]
        refine loop_of_dollar ?_ ?_
        · exact (skipSpace_suffix _).trans (hbump ignoreSpace ▸ List.suffix_refl _)
        · simp [Groups.Enclosed, opened, GroupFrame.isGroup]

theorem loop_of_stray (hc : c.Ready K) (hs : c.Stray) :
    ∃ e, (loop (n + 1) (moved g)).run c.embedded = .error e := by
  obtain ⟨r, hr⟩ := List.head?_eq_some_iff.mp hs.next
  unfold loop
  rw [run_skipSpace_bind, hs.skipSpace, run_next_bind, head?_embedded hr]
  dsimp only
  rw [run_bind]
  cases hstep : (step '\x7b' (moved g)).run c.embedded with
  | error e => exact ⟨e, rfl⟩
  | ok p =>
    have hlost : Lost [] ((step '\x7b' (moved g)).run c.embedded) :=
      (lost_countRepetition_of_stray hc hs).bind _
    refine loop_of_dollar ?_ (step_enclosed (by decide) g.enclosed_moved hstep)
    exact (p.2.skipSpace_suffix.trans (hlost p.1 p.2 hstep)).trans List.nil_suffix

/-- Behind a step that both readings make they are read on, and behind any other one the second
reading is refused, or the first one is for a group that is not open. -/
theorem StepFollows.wholeFollows {x₁ x₂ : Parse Groups} (hc : c.Ready K)
    (h : StepFollows K c g (x₁.run c) (x₂.run c.embedded))
    (hsame : ∀ g' c', c.Precedes 1 c' → (c.Quiet → g.Quiet → c'.Quiet ∧ g'.Quiet) →
      WholeFollows K ((loop n g').run c') ((loop (m + 1) (moved g')).run c'.embedded)) :
    WholeFollows K ((x₁ >>= loop n).run c) ((x₂ >>= loop (m + 1)).run c.embedded) := by
  generalize hr₁ : x₁.run c = r₁, hr₂ : x₂.run c.embedded = r₂ at h
  cases h with
  | same h hq =>
    rw [run_bind, run_bind, hr₁, hr₂]
    exact hsame _ _ h hq
  | lost h₂ h₁ =>
    have hfirst (hK : K) : ∃ e, (x₁ >>= loop n).run c = .error e := by
      obtain ⟨e, he⟩ := h₁ hK
      exact ⟨e, run_bind_error (hr₁.trans he) _⟩
    have hsecond : ∃ e, (x₂ >>= loop (m + 1)).run c.embedded = .error e := by
      cases r₂ with
      | error e => exact ⟨e, run_bind_error hr₂ _⟩
      | ok p =>
        obtain ⟨hg, hsuffix⟩ := h₂ p.1 p.2 rfl
        rw [run_bind, hr₂]
        exact loop_of_dollar (p.2.skipSpace_suffix.trans hsuffix) hg
    obtain ⟨e, he⟩ := hsecond
    rw [he]
    exact .refused hfirst
  | stray g' h hs =>
    obtain ⟨e, he⟩ := loop_of_stray (n := m) (hc.reaches h) hs
    rw [run_bind, run_bind, hr₁, hr₂]
    dsimp only
    rw [he]
    exact .refused fun _ => ⟨_, rfl⟩
  | unopened h =>
    rw [run_bind, hr₁]
    exact .unopened h

theorem wholeFollows_loop (hl : 1 ≤ c.place.line)
    (hK : K → Closed c.rest ∨ c.Quiet ∧ g.Quiet) (hn : c.rest.length < n)
    (hm : c.rest.length + 2 < m) :
    WholeFollows K ((loop n g).run c) ((loop m (moved g)).run c.embedded) := by
  induction n generalizing m c g with
  | zero => omega
  | succ n ih =>
    obtain ⟨m, rfl⟩ : ∃ i, m = i + 3 := ⟨m - 3, by omega⟩
    have hc : c.Ready K := ⟨hl, fun h => (hK h).imp_right And.left⟩
    rcases skipSpace_embedded hc with he | ⟨hnot, hend⟩
    · have hskip := c.reaches_skipSpace
      have hshort := hskip.shorter
      replace hc := hc.reaches hskip
      unfold loop
      rw [run_skipSpace_bind, run_skipSpace_bind, run_next_bind, run_next_bind, he]
      cases hr : c.skipSpace.rest with
      | nil =>
        rw [head?_embedded_of_end hr]
        exact wholeFollows_of_end hr
      | cons d r =>
        rw [head?_embedded hr, List.head?_cons]
        refine (stepFollows_step hc (by simp [hr])).wholeFollows hc fun g' c' h hq => ?_
        have hs := h.shorter
        refine ih (Nat.le_trans hc.line h.line) (fun hk => ?_) (by omega) (by omega)
        rcases hK hk with hclosed | ⟨hquiet, hg⟩
        · exact .inl (hclosed.suffix (h.rest.trans hskip.rest))
        · exact .inr (hq (hskip.quiet hquiet) hg)
    · obtain ⟨e, he⟩ : ∃ e, (loop (m + 3) (moved g)).run c.embedded = .error e := by
        refine loop_of_dollar ?_ g.enclosed_moved
        rw [hend]
        exact List.nil_suffix
      rw [he]
      exact .refused fun h => absurd h hnot

/-- A pattern that is asked of a whole text, up to the first character of the pattern. -/
theorem loop_opening (source : List Char) (n : Nat) :
    (loop (n + 2) ⟨[], .start, []⟩).run
        ⟨'^' :: '(' :: '?' :: ':' :: (source ++ closing), .start, false, []⟩ =
      (loop n (moved (⟨[], .start, []⟩ : Groups))).run
        (Cursor.embedded ⟨source, .start, false, []⟩) :=
  rfl

end AppDef.Pattern
