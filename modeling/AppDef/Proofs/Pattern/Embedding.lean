import AppDef.Proofs.Pattern.Places
import AppDef.Proofs.Pattern.Reading

namespace AppDef.Pattern

/-- What is put behind a pattern that is asked of a whole text. -/
def closing : List Char := [')', '$']

namespace Cursor

variable {c c' c'' : Cursor} {k l : Nat}

/-- The cursor at the same character of the pattern that is asked of a whole text. -/
def embedded (c : Cursor) : Cursor where
  rest := c.rest ++ closing
  place := moved c.place
  ignoreSpace := c.ignoreSpace
  groupNames := moved c.groupNames

/-- Blanks and number signs count here, and no flag is left that could change that. -/
structure Quiet (c : Cursor) : Prop where
  ignoreSpace : c.ignoreSpace = false
  rest : 'x' ∉ c.rest

/-- The one cursor comes before the other one, by so many characters at least. -/
structure Precedes (k : Nat) (c c' : Cursor) : Prop where
  rest : c'.rest <:+ c.rest
  shorter : c'.rest.length + k ≤ c.rest.length
  line : c.place.line ≤ c'.place.line

/-- The same, no flag being read between them that is not written there. -/
structure Reaches (k : Nat) (c c' : Cursor) : Prop extends Precedes k c c' where
  ignoreSpace : c.Quiet → c'.ignoreSpace = false

theorem Precedes.trans (h : Precedes k c c') (h' : Precedes l c' c'') : Precedes (k + l) c c'' := by
  refine ⟨h'.rest.trans h.rest, ?_, Nat.le_trans h.line h'.line⟩
  have hs := h.shorter
  have hs' := h'.shorter
  omega

theorem Reaches.quiet (h : Reaches k c c') (hc : c.Quiet) : c'.Quiet :=
  ⟨h.ignoreSpace hc, fun hx => hc.rest (h.rest.subset hx)⟩

theorem Reaches.refl (c : Cursor) : Reaches 0 c c :=
  ⟨⟨List.suffix_refl _, Nat.le_refl _, Nat.le_refl _⟩, Quiet.ignoreSpace⟩

theorem Reaches.trans (h : Reaches k c c') (h' : Reaches l c' c'') : Reaches (k + l) c c'' :=
  ⟨h.toPrecedes.trans h'.toPrecedes, fun hc => h'.ignoreSpace (h.quiet hc)⟩

theorem Reaches.mono (h : Reaches k c c') (hl : l ≤ k) : Reaches l c c' := by
  refine ⟨⟨h.rest, ?_, h.line⟩, h.ignoreSpace⟩
  have hs := h.shorter
  omega

theorem ignoreSpace_bump (c : Cursor) : c.bump.ignoreSpace = c.ignoreSpace := by
  unfold bump
  split <;> rfl

theorem ignoreSpace_skipIgnored (fuel : Nat) (inComment : Bool) (c : Cursor) :
    (skipIgnored fuel inComment c).ignoreSpace = c.ignoreSpace := by
  induction fuel generalizing inComment c with
  | zero => rfl
  | succ fuel ih =>
    have hbump (inComment : Bool) :
        (skipIgnored fuel inComment c.bump).ignoreSpace = c.ignoreSpace :=
      (ih inComment c.bump).trans c.ignoreSpace_bump
    unfold skipIgnored
    split
    · rfl
    · split
      · exact hbump _
      · split
        · exact hbump _
        · split
          · exact hbump _
          · rfl

theorem ignoreSpace_skipSpace (c : Cursor) : c.skipSpace.ignoreSpace = c.ignoreSpace := by
  unfold skipSpace
  split
  · exact ignoreSpace_skipIgnored _ _ c
  · rfl

theorem reaches_bump (h : c.rest ≠ []) : Reaches 1 c c.bump := by
  obtain ⟨d, r, hr⟩ := List.exists_cons_of_ne_nil h
  refine ⟨⟨c.bump_suffix, by simp [rest_bump, hr], ?_⟩, fun hc => ?_⟩
  · simp only [bump, hr, Place.next]
    split <;> simp
  · rw [ignoreSpace_bump, hc.ignoreSpace]

theorem line_bump (c : Cursor) : c.place.line ≤ c.bump.place.line := by
  by_cases h : c.rest = []
  · simp [bump, h]
  · exact (reaches_bump h).line

theorem line_skipIgnored (fuel : Nat) (inComment : Bool) (c : Cursor) :
    c.place.line ≤ (skipIgnored fuel inComment c).place.line := by
  induction fuel generalizing inComment c with
  | zero => exact Nat.le_refl _
  | succ fuel ih =>
    have hbump (inComment : Bool) :
        c.place.line ≤ (skipIgnored fuel inComment c.bump).place.line :=
      Nat.le_trans c.line_bump (ih inComment c.bump)
    unfold skipIgnored
    split
    · exact Nat.le_refl _
    · split
      · exact hbump _
      · split
        · exact hbump _
        · split
          · exact hbump _
          · exact Nat.le_refl _

theorem reaches_skipSpace (c : Cursor) : Reaches 0 c c.skipSpace := by
  refine ⟨⟨c.skipSpace_suffix, c.skipSpace_suffix.length_le, ?_⟩, fun hc => ?_⟩
  · unfold skipSpace
    split
    · exact line_skipIgnored _ _ c
    · exact Nat.le_refl _
  · rw [ignoreSpace_skipSpace, hc.ignoreSpace]

theorem rest_embedded_ne_nil (c : Cursor) : c.embedded.rest ≠ [] := by
  simp [embedded, closing]

theorem bump_embedded (h : c.rest ≠ []) (hl : 1 ≤ c.place.line) :
    c.embedded.bump = c.bump.embedded := by
  obtain ⟨d, r, hr⟩ := List.exists_cons_of_ne_nil h
  simp [embedded, bump, hr, moved_next hl]

end Cursor

/-- Every number sign in the text has a line break behind it, so that no comment is left open at
its end. -/
def Closed (text : List Char) : Prop :=
  ∀ before behind, text = before ++ '#' :: behind → '\n' ∈ behind

theorem Closed.suffix {s t : List Char} (h : Closed t) (hs : s <:+ t) : Closed s := by
  obtain ⟨u, rfl⟩ := hs
  intro before behind he
  exact h (u ++ before) behind (by simp [he])

/-- What is kept about a cursor: it stands on a line, and if so it is assumed (`K`) no comment can
be left open at the end of what is left. -/
structure Cursor.Ready (K : Prop) (c : Cursor) : Prop where
  line : 1 ≤ c.place.line
  closed : K → Closed c.rest ∨ c.Quiet

theorem Cursor.Ready.reaches {K : Prop} {c c' : Cursor} {k : Nat} (h : c.Ready K)
    (hr : c.Reaches k c') : c'.Ready K :=
  ⟨Nat.le_trans h.line hr.line,
    fun hK => (h.closed hK).imp (fun hc => hc.suffix hr.rest) hr.quiet⟩

namespace Cursor

variable {K : Prop} {c : Cursor}

theorem skipIgnored_cons {d : Char} {r : List Char} (h : c.rest = d :: r) (fuel : Nat)
    (inComment : Bool) : skipIgnored (fuel + 1) inComment c =
      if inComment then skipIgnored fuel (d != '\n') c.bump
      else if Text.isBlank d then skipIgnored fuel false c.bump
      else if d = '#' then skipIgnored fuel true c.bump
      else c := by
  simp [skipIgnored, h]

/-- A comment at the end of the pattern goes on behind it. -/
theorem skipIgnored_embedded {inComment : Bool} (hl : 1 ≤ c.place.line)
    (hK : K → Closed c.rest ∧ (inComment = true → '\n' ∈ c.rest)) :
    skipIgnored c.embedded.rest.length inComment c.embedded =
        (skipIgnored c.rest.length inComment c).embedded ∨
      ¬ K ∧ (skipIgnored c.embedded.rest.length inComment c.embedded).rest = [] := by
  induction hr : c.rest generalizing c inComment with
  | nil =>
    have he : c.embedded.rest = closing := by simp [embedded, hr]
    cases inComment with
    | true =>
      refine .inr ⟨fun h => ?_, ?_⟩
      · have hbreak := (hK h).2 rfl
        rw [hr] at hbreak
        cases hbreak
      · simp [he, closing, skipIgnored, bump]
    | false =>
      have hblank : Text.isBlank ')' = false := by decide
      exact .inl (by simp [he, closing, skipIgnored, hblank])
  | cons d r ih =>
    have hne : c.rest ≠ [] := by simp [hr]
    have hbump : c.embedded.bump = c.bump.embedded := bump_embedded hne hl
    have hrest : c.bump.rest = r := by simp [rest_bump, hr]
    have hline : 1 ≤ c.bump.place.line := Nat.le_trans hl c.line_bump
    have he : c.embedded.rest = d :: c.bump.embedded.rest := by simp [embedded, hr, hrest]
    have hnext (inComment : Bool) (hbreak : K → inComment = true → '\n' ∈ r) :
        skipIgnored c.bump.embedded.rest.length inComment c.bump.embedded =
            (skipIgnored r.length inComment c.bump).embedded ∨
          ¬ K ∧ (skipIgnored c.bump.embedded.rest.length inComment c.bump.embedded).rest = [] := by
      refine ih hline (fun h => ⟨?_, fun hc => hrest ▸ hbreak h hc⟩) hrest
      exact (hK h).1.suffix (hrest ▸ hr ▸ List.suffix_cons d r)
    rw [he, List.length_cons, List.length_cons, skipIgnored_cons he, skipIgnored_cons hr, hbump]
    split
    · rename_i hc
      refine hnext _ fun h hd => ?_
      have hbreak := (hK h).2 hc
      rw [hr] at hbreak
      rcases List.mem_cons.mp hbreak with heq | hmem
      · exact absurd heq.symm (by simpa using hd)
      · exact hmem
    · split
      · exact hnext false fun _ hc => by cases hc
      · split
        · rename_i hd
          exact hnext true fun h _ => (hK h).1 [] r (by simp [hr, hd])
        · exact .inl rfl

theorem skipSpace_embedded (h : c.Ready K) : c.embedded.skipSpace = c.skipSpace.embedded ∨
    ¬ K ∧ c.embedded.skipSpace.rest = [] := by
  by_cases hi : c.ignoreSpace = true
  · have hi' : c.embedded.ignoreSpace = true := hi
    simp only [skipSpace, hi, hi', if_true]
    refine skipIgnored_embedded h.line fun hK => ⟨?_, fun hc => by cases hc⟩
    rcases h.closed hK with hclosed | hquiet
    · exact hclosed
    · rw [hquiet.ignoreSpace] at hi
      cases hi
  · have hi' : ¬ c.embedded.ignoreSpace = true := hi
    simp only [skipSpace, hi, hi']
    exact .inl rfl

end Cursor

abbrev Reading (α : Type) := Except SyntaxError (α × Cursor)

variable {α β : Type} {K : Prop} {u v : List Char} {k l : Nat} {c c' : Cursor}

/-- If the reading succeeds, no more is left than this. -/
def Lost (u : List Char) (r : Reading α) : Prop :=
  ∀ a c, r = .ok (a, c) → c.rest <:+ u

theorem Parse.lost (x : Parse α) (h : c.rest <:+ u) : Lost u (x.run c) :=
  fun _ _ he => (x.forward he).trans h

theorem Parse.lost_of_end (x : Parse α) (h : c.rest = []) : Lost u (x.run c) :=
  x.lost (h ▸ List.nil_suffix)

theorem lost_error {e : SyntaxError} : Lost u (.error e : Reading α) :=
  fun _ _ h => by cases h

/-- What is read behind the pattern goes on from there. -/
theorem Lost.bind_into {x : Parse α} {f : α → Parse β} (h : Lost v (x.run c))
    (hf : ∀ a c', c'.rest <:+ v → Lost u ((f a).run c')) : Lost u ((x >>= f).run c) := by
  rw [Parse.run_bind]
  cases hx : x.run c with
  | error e => exact lost_error
  | ok p => exact hf p.1 p.2 (h p.1 p.2 hx)

theorem Lost.bind {x : Parse α} (h : Lost u (x.run c)) (f : α → Parse β) :
    Lost u ((x >>= f).run c) :=
  h.bind_into fun a _ => Parse.lost (f a)

theorem Lost.mono {r : Reading α} (h : Lost u r) (huv : u <:+ v) : Lost v r :=
  fun a c he => (h a c he).trans huv

/-- All that the second reading can do when the first one is one of the same part of the pattern on
its own: it does the same, or goes on into what stands behind the pattern. The latter is all that is
known of a first reading up to the end, if the end is refused behind it (`E`). -/
inductive Follows [Placed α] (K E : Prop) (u : List Char) (k : Nat) (c : Cursor) :
    Reading α → Reading α → Prop
  | same {a : α} {c' : Cursor} (h : c.Reaches k c') (hE : E → c'.rest ≠ []) :
      Follows K E u k c (.ok (a, c')) (.ok (moved a, c'.embedded))
  | lost {r₁ r₂ : Reading α} (h₂ : Lost u r₂)
      (h₁ : ∀ a c', r₁ = .ok (a, c') → K → E ∧ c'.rest = []) : Follows K E u k c r₁ r₂

namespace Follows

variable {E : Prop} [Placed α] [Placed β] {r₁ r₂ : Reading α}

theorem here (a : α) : Follows K False u 0 c (.ok (a, c)) (.ok (moved a, c.embedded)) :=
  .same (.refl c) False.elim

theorem of_error {e : SyntaxError} (h : Lost u r₂) : Follows K E u k c (.error e) r₂ :=
  .lost h fun _ _ he => by cases he

theorem refused {e₁ e₂ : SyntaxError} : Follows K E u k c (.error e₁ : Reading α) (.error e₂) :=
  .of_error lost_error

theorem mono (h : Follows K E u k c r₁ r₂) (hl : l ≤ k) (huv : u <:+ v) :
    Follows K E v l c r₁ r₂ := by
  cases h with
  | same h hE => exact .same (h.mono hl) hE
  | lost h₂ h₁ => exact .lost (h₂.mono huv) h₁

theorem least (h : Follows K E u k c r₁ r₂) : Follows K E u 0 c r₁ r₂ :=
  h.mono (Nat.zero_le k) (List.suffix_refl u)

theorem behind (hr : c.Reaches k c') (h : Follows K E u 0 c' r₁ r₂) :
    Follows K E u k c r₁ r₂ := by
  cases h with
  | same h hE => exact .same (hr.trans h) hE
  | lost h₂ h₁ => exact .lost h₂ h₁

theorem from_reached (h : Follows K E u k c' r₁ r₂) (hr : c.Reaches 0 c') :
    Follows K E u k c r₁ r₂ := by
  cases h with
  | same h hE => exact .same ((hr.trans h).mono (Nat.le_add_left k 0)) hE
  | lost h₂ h₁ => exact .lost h₂ h₁

/-- What follows is compared from where the first part begins. -/
theorem bind_at {E' : Prop} {x₁ x₂ : Parse α} {f₁ f₂ : α → Parse β}
    (hx : Follows K E' v k c (x₁.run c) (x₂.run c.embedded))
    (hf : ∀ a c', x₁.run c = .ok (a, c') → c.Reaches k c' → (E' → c'.rest ≠ []) →
      Follows K E u k c ((f₁ a).run c') ((f₂ (moved a)).run c'.embedded))
    (hE : E' → ∀ a c', c'.rest = [] → ∀ b c'', (f₁ a).run c' = .ok (b, c'') →
      E ∧ c''.rest = [])
    (hlost : ∀ a c', c'.rest <:+ v → Lost u ((f₂ a).run c')) :
    Follows K E u k c ((x₁ >>= f₁).run c) ((x₂ >>= f₂).run c.embedded) := by
  rw [Parse.run_bind, Parse.run_bind]
  generalize hr₁ : x₁.run c = r₁, x₂.run c.embedded = r₂ at hx
  cases hx with
  | same h hne => exact hf _ _ hr₁ h hne
  | lost h₂ h₁ =>
    refine .lost ?_ ?_
    · cases r₂ with
      | error e => exact lost_error
      | ok p => exact hlost p.1 p.2 (h₂ p.1 p.2 rfl)
    · intro b c'' hb hK
      cases r₁ with
      | error e => cases hb
      | ok q =>
        obtain ⟨hE', hend⟩ := h₁ q.1 q.2 rfl hK
        exact hE hE' q.1 q.2 hend b c'' hb

theorem bind_of {E' : Prop} {x₁ x₂ : Parse α} {f₁ f₂ : α → Parse β}
    (hx : Follows K E' v k c (x₁.run c) (x₂.run c.embedded))
    (hf : ∀ a c', x₁.run c = .ok (a, c') → c.Reaches k c' → (E' → c'.rest ≠ []) →
      Follows K E u 0 c' ((f₁ a).run c') ((f₂ (moved a)).run c'.embedded))
    (hE : E' → ∀ a c', c'.rest = [] → ∀ b c'', (f₁ a).run c' = .ok (b, c'') →
      E ∧ c''.rest = [])
    (hlost : ∀ a c', c'.rest <:+ v → Lost u ((f₂ a).run c')) :
    Follows K E u k c ((x₁ >>= f₁).run c) ((x₂ >>= f₂).run c.embedded) :=
  hx.bind_at (fun a c' he h hne => (hf a c' he h hne).behind h) hE hlost

theorem bind {x₁ x₂ : Parse α} {f₁ f₂ : α → Parse β}
    (hx : Follows K False u k c (x₁.run c) (x₂.run c.embedded))
    (hf : ∀ a c', c.Reaches k c' →
      Follows K E u 0 c' ((f₁ a).run c') ((f₂ (moved a)).run c'.embedded)) :
    Follows K E u k c ((x₁ >>= f₁).run c) ((x₂ >>= f₂).run c.embedded) :=
  hx.bind_of (fun a c' _ h _ => hf a c' h) False.elim fun a _ => Parse.lost (f₂ a)

/-- What is read behind the pattern is refused later. -/
theorem bind_into {x₁ x₂ : Parse α} {f₁ f₂ : α → Parse β}
    (hx : Follows K False v k c (x₁.run c) (x₂.run c.embedded))
    (hlost : ∀ a c', c'.rest <:+ v → Lost u ((f₂ a).run c'))
    (hf : ∀ a c', c.Reaches k c' →
      Follows K E u 0 c' ((f₁ a).run c') ((f₂ (moved a)).run c'.embedded)) :
    Follows K E u k c ((x₁ >>= f₁).run c) ((x₂ >>= f₂).run c.embedded) :=
  hx.bind_of (fun a c' _ h _ => hf a c' h) False.elim hlost

/-- A reading behind which something is left. -/
theorem bind_more {x₁ x₂ : Parse α} {f₁ f₂ : α → Parse β}
    (hx : Follows K False u k c (x₁.run c) (x₂.run c.embedded))
    (hmore : ∀ a c', x₁.run c = .ok (a, c') → c'.rest ≠ [])
    (hf : ∀ a c', c.Reaches k c' → c'.rest ≠ [] →
      Follows K E u 0 c' ((f₁ a).run c') ((f₂ (moved a)).run c'.embedded)) :
    Follows K E u k c ((x₁ >>= f₁).run c) ((x₂ >>= f₂).run c.embedded) :=
  hx.bind_of (fun a c' he h _ => hf a c' h (hmore a c' he)) False.elim fun a _ => Parse.lost (f₂ a)

/-- A reading behind which the end is refused. -/
theorem bind_refusing {x₁ x₂ : Parse α} {f₁ f₂ : α → Parse β}
    (hx : Follows K True u k c (x₁.run c) (x₂.run c.embedded))
    (hend : ∀ a c', c'.rest = [] → ∃ e, (f₁ a).run c' = .error e)
    (hf : ∀ a c', c.Reaches k c' → c'.rest ≠ [] →
      Follows K E u 0 c' ((f₁ a).run c') ((f₂ (moved a)).run c'.embedded)) :
    Follows K E u k c ((x₁ >>= f₁).run c) ((x₂ >>= f₂).run c.embedded) := by
  refine hx.bind_of (fun a c' _ h hne => hf a c' h (hne trivial)) ?_ fun a _ => Parse.lost (f₂ a)
  intro _ a c' hc' b c'' hb
  obtain ⟨e, he⟩ := hend a c' hc'
  rw [he] at hb
  cases hb

theorem map {x₁ x₂ : Parse α} {g₁ g₂ : α → β}
    (hx : Follows K E u k c (x₁.run c) (x₂.run c.embedded))
    (hg : ∀ a, g₂ (moved a) = moved (g₁ a)) :
    Follows K E u k c ((x₁ >>= fun a => pure (g₁ a)).run c)
      ((x₂ >>= fun a => pure (g₂ a)).run c.embedded) := by
  refine hx.bind_of (fun a c' _ _ hE => ?_) (fun hE a c' hend b c'' hb => ?_)
    fun a _ => Parse.lost (pure (g₂ a))
  · rw [hg]
    exact .same (.refl c') hE
  · cases hb
    exact ⟨hE, hend⟩

theorem bump {f₁ f₂ : Bool → Parse α} (hc : c.Ready K) (hne : c.rest ≠ [])
    (h : c.Reaches 1 c.bump → Follows K E u 0 c.bump ((f₁ !c.bump.rest.isEmpty).run c.bump)
      ((f₂ true).run c.bump.embedded)) :
    Follows K E u 1 c ((bump >>= f₁).run c) ((bump >>= f₂).run c.embedded) := by
  have hmore : (!c.bump.embedded.rest.isEmpty) = true := by simp [c.bump.rest_embedded_ne_nil]
  rw [Parse.run_bump_bind, Parse.run_bump_bind, Cursor.bump_embedded hne hc.line, hmore]
  exact (h (Cursor.reaches_bump hne)).behind (Cursor.reaches_bump hne)

theorem skip (hc : c.Ready K) {x₁ : Parse α} (f₂ : Cursor → Parse α)
    (h : Follows K E u k c.skipSpace (x₁.run c.skipSpace)
      ((f₂ c.skipSpace.embedded).run c.skipSpace.embedded)) :
    Follows K E u k c (x₁.run c.skipSpace)
      ((f₂ c.embedded.skipSpace).run c.embedded.skipSpace) := by
  rcases Cursor.skipSpace_embedded hc with he | ⟨hK, hend⟩
  · rw [he]
    exact h.from_reached c.reaches_skipSpace
  · exact .lost (Parse.lost_of_end _ hend) fun _ _ _ h => absurd h hK

theorem bumpAndSkip {f₁ f₂ : Bool → Parse α} (hc : c.Ready K) (hne : c.rest ≠ [])
    (h : c.Reaches 1 c.bump.skipSpace → Follows K E u 0 c.bump.skipSpace
      ((f₁ !c.bump.skipSpace.rest.isEmpty).run c.bump.skipSpace)
      ((f₂ true).run c.bump.skipSpace.embedded)) :
    Follows K E u 1 c ((bumpAndSkip >>= f₁).run c) ((bumpAndSkip >>= f₂).run c.embedded) := by
  have hbump : c.Reaches 1 c.bump := Cursor.reaches_bump hne
  have hmore : (!c.bump.skipSpace.embedded.rest.isEmpty) = true := by
    simp [c.bump.skipSpace.rest_embedded_ne_nil]
  rw [Parse.run_bumpAndSkip_bind, Parse.run_bumpAndSkip_bind, Cursor.bump_embedded hne hc.line]
  refine Follows.behind hbump (skip (hc.reaches hbump) (fun c => f₂ !c.rest.isEmpty) ?_)
  rw [hmore]
  exact h (hbump.trans c.bump.reaches_skipSpace)

section Refusing

variable {refusal₁ refusal₂ x₁ x₂ : Parse α}

/-- The end of the pattern is refused where more has to follow. -/
theorem more_or (hrefusal : ∀ c, ∃ e, refusal₁.run c = .error e)
    (hend : c.rest = [] → Lost u (x₂.run c.embedded))
    (h : c.rest ≠ [] → Follows K E u k c (x₁.run c) (x₂.run c.embedded)) :
    Follows K E u k c ((if (!!c.rest.isEmpty) = true then refusal₁ else x₁).run c)
      ((if (!true) = true then refusal₂ else x₂).run c.embedded) := by
  simp only [Parse.run_ite, Bool.not_true, Bool.false_eq_true, if_false]
  by_cases he : c.rest = []
  · obtain ⟨e, hre⟩ := hrefusal c
    rw [if_pos (by simp [he]), hre]
    exact .of_error (hend he)
  · rw [if_neg (by simp [he])]
    exact h he

theorem bump_or (hc : c.Ready K) (hne : c.rest ≠ [])
    (hrefusal : ∀ c, ∃ e, refusal₁.run c = .error e)
    (hend : c.bump.rest = [] → Lost u (x₂.run c.bump.embedded))
    (h : c.Reaches 1 c.bump → c.bump.rest ≠ [] →
      Follows K E u 0 c.bump (x₁.run c.bump) (x₂.run c.bump.embedded)) :
    Follows K E u 1 c
      ((Pattern.bump >>= fun more => if (!more) = true then refusal₁ else x₁).run c)
      ((Pattern.bump >>= fun more => if (!more) = true then refusal₂ else x₂).run c.embedded) :=
  bump hc hne fun hr => more_or hrefusal hend (h hr)

theorem bumpAndSkip_or (hc : c.Ready K) (hne : c.rest ≠ [])
    (hrefusal : ∀ c, ∃ e, refusal₁.run c = .error e)
    (hend : c.bump.skipSpace.rest = [] → Lost u (x₂.run c.bump.skipSpace.embedded))
    (h : c.Reaches 1 c.bump.skipSpace → c.bump.skipSpace.rest ≠ [] →
      Follows K E u 0 c.bump.skipSpace (x₁.run c.bump.skipSpace)
        (x₂.run c.bump.skipSpace.embedded)) :
    Follows K E u 1 c
      ((Pattern.bumpAndSkip >>= fun more => if (!more) = true then refusal₁ else x₁).run c)
      ((Pattern.bumpAndSkip >>= fun more => if (!more) = true then refusal₂ else x₂).run
        c.embedded) :=
  bumpAndSkip hc hne fun hr => more_or hrefusal hend (h hr)

end Refusing

end Follows

end AppDef.Pattern
