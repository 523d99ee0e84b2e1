import AppDef.Proofs.Pattern.Embedding

namespace AppDef.Pattern

open Text Parse

variable {K : Prop} {u : List Char} {c : Cursor} {n m : Nat} {start : Place}

namespace Cursor

theorem rest_embedded (c : Cursor) : c.embedded.rest = c.rest ++ closing :=
  rfl

theorem rest_embedded_of_end (h : c.rest = []) : c.embedded.rest = [')', '$'] := by
  simp [rest_embedded, h, closing]

theorem head?_embedded_of_end (h : c.rest = []) : c.embedded.rest.head? = some ')' := by
  rw [rest_embedded_of_end h]
  rfl

theorem head?_embedded {d : Char} {r : List Char} (h : c.rest = d :: r) :
    c.embedded.rest.head? = some d := by
  simp [rest_embedded, h]

theorem charSpan_embedded (hc : c.Ready K) (hne : c.rest ≠ []) :
    c.embedded.charSpan = moved c.charSpan := by
  simp only [charSpan, bump_embedded hne hc.line]
  rfl

theorem length_lt_fuel (c : Cursor) : c.rest.length < c.embedded.rest.length + 1 := by
  simp only [rest_embedded, List.length_append]
  omega

end Cursor

open Cursor

/-- Behind the end only the closing parenthesis can be gone past. -/
theorem suffix_bump_of_end (h : c.rest = []) : c.embedded.bump.rest <:+ ['$'] := by
  rw [rest_bump, rest_embedded_of_end h]
  exact List.suffix_refl _

theorem lost_bump_of_end {α : Type} {f : Bool → Parse α} (h : c.rest = []) :
    Lost ['$'] ((bump >>= f).run c.embedded) := by
  rw [run_bump_bind]
  exact Parse.lost _ (suffix_bump_of_end h)

theorem lost_bumpAndSkip_of_end {α : Type} {f : Bool → Parse α} (h : c.rest = []) :
    Lost ['$'] ((bumpAndSkip >>= f).run c.embedded) := by
  rw [run_bumpAndSkip_bind]
  exact Parse.lost _ ((skipSpace_suffix _).trans (suffix_bump_of_end h))

theorem follows_charsRun {kind : Char → Bool} (hkind : kind ')' = false) (hc : c.Ready K)
    (hn : c.rest.length < n) (hm : c.rest.length < m) :
    Follows K False u 0 c ((charsRun kind n).run c) ((charsRun kind m).run c.embedded) := by
  induction n generalizing m c with
  | zero => omega
  | succ n ih =>
    obtain ⟨m, rfl⟩ : ∃ i, m = i + 1 := ⟨m - 1, by omega⟩
    cases hr : c.rest with
    | nil =>
      simp only [charsRun, run_next_bind, hr, head?_embedded_of_end hr, hkind]
      exact .here _
    | cons d r =>
      have hne : c.rest ≠ [] := by simp [hr]
      simp only [charsRun, run_next_bind, hr, head?_embedded hr, List.head?_cons, run_ite]
      split
      · refine (Follows.bumpAndSkip hc hne fun h => ?_).least
        have hs := h.shorter
        exact (ih (hc.reaches h) (by omega) (by omega)).map fun _ => rfl
      · exact .here _

theorem follows_skipBlanks {ignored : Bool} (hc : c.Ready K) (hn : c.rest.length < n)
    (hm : c.rest.length < m) :
    Follows K False u 0 c ((skipBlanks n ignored).run c)
      ((skipBlanks m ignored).run c.embedded) := by
  induction n generalizing m c with
  | zero => omega
  | succ n ih =>
    obtain ⟨m, rfl⟩ : ∃ i, m = i + 1 := ⟨m - 1, by omega⟩
    cases hr : c.rest with
    | nil =>
      simp only [skipBlanks, run_next_bind, hr, head?_embedded_of_end hr]
      exact .here _
    | cons d r =>
      have hne : c.rest ≠ [] := by simp [hr]
      simp only [skipBlanks, run_next_bind, hr, head?_embedded hr, List.head?_cons, run_ite]
      split
      · cases ignored with
        | true =>
          refine (Follows.bumpAndSkip hc hne fun h => ?_).least
          have hs := h.shorter
          exact ih (hc.reaches h) (by omega) (by omega)
        | false =>
          refine (Follows.bump hc hne fun h => ?_).least
          have hs := h.shorter
          exact ih (hc.reaches h) (by omega) (by omega)
      · exact .here _

theorem follows_decimal (hc : c.Ready K) :
    Follows K False u 0 c (decimal.run c) (decimal.run c.embedded) := by
  simp only [decimal, run_fuelLeft_bind]
  refine (follows_skipBlanks hc (Nat.lt_succ_self _) c.length_lt_fuel).bind fun _ c₁ h₁ => ?_
  simp only [run_place_bind, run_fuelLeft_bind]
  have hc₁ := hc.reaches h₁
  refine (follows_charsRun (by decide) hc₁ (Nat.lt_succ_self _) c₁.length_lt_fuel).bind
    fun ds c₂ h₂ => ?_
  simp only [run_spanFrom_bind, run_fuelLeft_bind]
  have hc₂ := hc₁.reaches h₂
  refine (follows_skipBlanks hc₂ (Nat.lt_succ_self _) c₂.length_lt_fuel).bind fun _ c₃ h₃ => ?_
  rw [moved_eq ds]
  split
  · exact .here _
  · simp only [run_pure]
    split <;> exact .here _

/-- A digit in base sixteen that is next, and more of them behind it. -/
def hexDigitsHere (count : Nat) : Parse (List Nat) := do
  match (← next?).bind hexValue? with
  | none => refuse (← charSpan) .escapeHexInvalidDigit
  | some d => return d :: (← hexDigits count false)

theorem hexDigits_first : hexDigits (n + 1) true = hexDigitsHere n :=
  rfl

theorem hexDigits_next : hexDigits (n + 1) false =
    bumpAndSkip >>= fun more =>
      if (!more) = true then
        place >>= fun p => refuse (.at p) .escapeUnexpectedEnd >>= fun (_ : Unit) => hexDigitsHere n
      else hexDigitsHere n :=
  rfl

theorem hexDigitsHere_embedded_of_end (h : c.rest = []) :
    ∃ e, (hexDigitsHere n).run c.embedded = .error e := by
  have hvalue : hexValue? ')' = none := by decide
  simp only [hexDigitsHere, run_next_bind, head?_embedded_of_end h, Option.bind_some, hvalue]
  exact ⟨_, rfl⟩

theorem follows_hexDigits {first : Bool} (hc : c.Ready K) (hne : c.rest ≠ []) :
    Follows K False u 0 c ((hexDigits n first).run c) ((hexDigits n first).run c.embedded) := by
  induction n generalizing c first with
  | zero => exact .here _
  | succ n ih =>
    have hhere {c : Cursor} (hc : c.Ready K) (hne : c.rest ≠ []) : Follows K False u 0 c
        ((hexDigitsHere n).run c) ((hexDigitsHere n).run c.embedded) := by
      obtain ⟨d, r, hr⟩ := List.exists_cons_of_ne_nil hne
      simp only [hexDigitsHere, run_next_bind, hr, head?_embedded hr, List.head?_cons,
        Option.bind_some]
      cases hexValue? d with
      | none => exact .refused
      | some x => exact (ih hc hne).map fun _ => rfl
    cases first with
    | true => exact hhere hc hne
    | false =>
      rw [hexDigits_next]
      refine (Follows.bumpAndSkip_or hc hne (fun _ => ⟨_, rfl⟩) (fun he => ?_)
        fun h hne' => hhere (hc.reaches h) hne').least
      obtain ⟨e, herror⟩ := hexDigitsHere_embedded_of_end he (n := n)
      exact herror ▸ lost_error

/-- The last digit is left for the escape to go past. -/
theorem hexDigits_more {first : Bool} {ds : List Nat} {c' : Cursor} (hne : c.rest ≠ [])
    (h : (hexDigits n first).run c = .ok (ds, c')) : c'.rest ≠ [] := by
  induction n generalizing c first ds with
  | zero =>
    cases h
    exact hne
  | succ n ih =>
    have hhere {c : Cursor} (h : (hexDigitsHere n).run c = .ok (ds, c')) : c'.rest ≠ [] := by
      cases hr : c.rest with
      | nil =>
        simp only [hexDigitsHere, run_next_bind, hr] at h
        cases h
      | cons d r =>
        simp only [hexDigitsHere, run_next_bind, hr, List.head?_cons, Option.bind_some] at h
        cases hx : hexValue? d with
        | none =>
          rw [hx] at h
          cases h
        | some x =>
          rw [hx, run_bind] at h
          cases hds : (hexDigits n false).run c with
          | error e => simp [hds] at h
          | ok q =>
            simp only [hds] at h
            cases h
            exact ih (by simp [hr]) hds
    cases first with
    | true => exact hhere h
    | false =>
      rw [hexDigits_next, run_bumpAndSkip_bind, run_ite] at h
      split at h
      · cases h
      · exact hhere h

/-- What stands in braces, where `parts` reads it from a character on that does not close them. -/
def braced {α : Type} (parts : Char → Parse (List α)) : Parse (List α) := do
  if !(← bumpAndSkip) then return []
  match ← next? with
  | some '\x7d' => return []
  | some d => parts d
  | none => return []

/-- Without the closing brace all is read up to the end, and the end is refused. -/
theorem follows_braced {α : Type} [Placed α] {parts₁ parts₂ : Char → Parse (List α)}
    (hc : c.Ready K) (hne : c.rest ≠ [])
    (hend : c.bump.skipSpace.rest = [] → Lost u ((parts₂ ')').run c.bump.skipSpace.embedded))
    (h : ∀ d, c.Reaches 1 c.bump.skipSpace → c.bump.skipSpace.rest ≠ [] →
      Follows K True u 0 c.bump.skipSpace ((parts₁ d).run c.bump.skipSpace)
        ((parts₂ d).run c.bump.skipSpace.embedded)) :
    Follows K True u 0 c ((braced parts₁).run c) ((braced parts₂).run c.embedded) := by
  unfold braced
  refine (Follows.bumpAndSkip hc hne fun hreach => ?_).least
  cases hr : c.bump.skipSpace.rest with
  | nil =>
    simp only [List.isEmpty_nil, Bool.not_true, Bool.not_false, if_true, run_pure,
      Bool.false_eq_true, if_false, run_next_bind, head?_embedded_of_end hr]
    exact .lost (hend hr) fun _ _ he _ => by cases he; exact ⟨trivial, hr⟩
  | cons d r =>
    have hne' : c.bump.skipSpace.rest ≠ [] := by simp [hr]
    simp only [List.isEmpty_cons, Bool.not_false, Bool.not_true, Bool.false_eq_true, if_false,
      run_next_bind, hr, head?_embedded hr, List.head?_cons]
    by_cases hd : d = '\x7d'
    · subst hd
      exact .same (.refl _) fun _ => hne'
    · simp only
      exact h d hreach hne'

theorem bracedHexDigits_succ : bracedHexDigits (n + 1) = braced fun d =>
    match hexValue? d with
    | some x => bracedHexDigits n >>= fun ds => pure (x :: ds)
    | none => charSpan >>= fun span => refuse span .escapeHexInvalidDigit :=
  rfl

theorem follows_bracedHexDigits (hc : c.Ready K) (hne : c.rest ≠ []) (hn : c.rest.length < n)
    (hm : c.rest.length < m) :
    Follows K True u 0 c ((bracedHexDigits n).run c) ((bracedHexDigits m).run c.embedded) := by
  induction n generalizing m c with
  | zero => omega
  | succ n ih =>
    obtain ⟨m, rfl⟩ : ∃ i, m = i + 1 := ⟨m - 1, by omega⟩
    rw [bracedHexDigits_succ, bracedHexDigits_succ]
    refine follows_braced hc hne (fun _ => lost_error) fun d h hne' => ?_
    have hs := h.shorter
    cases hexValue? d with
    | none => exact .refused
    | some x => exact (ih (hc.reaches h) hne' (by omega) (by omega)).map fun _ => rfl

theorem follows_hexEscape {kind : Char} (hc : c.Ready K) (hne : c.rest ≠ []) :
    Follows K False u 1 c ((hexEscape start kind).run c)
      ((hexEscape (moved start) kind).run c.embedded) := by
  unfold hexEscape
  refine Follows.bumpAndSkip_or hc hne (fun _ => ⟨_, rfl⟩) (fun he => ?_) fun h hne => ?_
  · obtain ⟨i, hi⟩ : ∃ i, (if kind = 'x' then 2 else if kind = 'u' then 4 else 8) = i + 1 :=
      Nat.exists_eq_succ_of_ne_zero (by split <;> simp; split <;> simp)
    obtain ⟨e, herror⟩ := hexDigitsHere_embedded_of_end he (n := i)
    simp only [run_next_bind, head?_embedded_of_end he, run_ite]
    rw [if_neg (by decide), run_place_bind, hi, hexDigits_first, run_bind, herror]
    exact lost_error
  · have hc := hc.reaches h
    obtain ⟨d, r, hr⟩ := List.exists_cons_of_ne_nil hne
    simp only [run_next_bind, head?_embedded hr, hr, List.head?_cons, run_ite]
    split
    · simp only [run_place_bind, run_charSpan_bind, run_fuelLeft_bind]
      refine (follows_bracedHexDigits hc hne (Nat.lt_succ_self _)
        (Cursor.length_lt_fuel _)).bind_refusing ?_ fun ds c' h' hne' => ?_
      · intro ds c' hend
        exact ⟨_, by simp [hend]; rfl⟩
      · have hc' := hc.reaches h'
        simp only [run_atEnd_bind, List.isEmpty_eq_false_iff.mpr hne',
          List.isEmpty_eq_false_iff.mpr c'.rest_embedded_ne_nil, Bool.false_eq_true, if_false,
          run_place_bind]
        refine (Follows.bumpAndSkip hc' hne' fun h'' => ?_).least
        simp only [moved_eq ds, run_ite]
        split
        · exact .refused
        · cases character? (hexNumber ds) with
          | none => exact .refused
          | some x => exact .here _
    · simp only [run_place_bind]
      refine (follows_hexDigits hc hne).bind_more (fun ds c' he => hexDigits_more hne he)
        fun ds c' h' hne' => ?_
      refine (Follows.bumpAndSkip (hc.reaches h') hne' fun h'' => ?_).least
      simp only [moved_eq ds]
      cases character? (hexNumber ds) with
      | none => exact .refused
      | some x => exact .here _

/-- Without a closing brace all is read. -/
theorem lost_bracedName (hbrace : '\x7d' ∉ c.rest) (hn : c.rest.length < n) :
    Lost [] ((bracedName n).run c) := by
  induction n generalizing c with
  | zero => omega
  | succ n ih =>
    unfold bracedName
    rw [run_bumpAndSkip_bind, run_ite]
    have hsuffix : c.bump.skipSpace.rest <:+ c.rest.tail :=
      c.rest_bump ▸ skipSpace_suffix c.bump
    cases hr : c.bump.skipSpace.rest with
    | nil => exact fun _ _ he => by cases he; exact hr ▸ List.suffix_refl []
    | cons d r =>
      have hd : d ≠ '\x7d' := by
        rintro rfl
        exact hbrace ((List.tail_suffix _).subset (hsuffix.subset (by simp [hr])))
      have hshort : c.bump.skipSpace.rest.length < n := by
        have hs := hsuffix.length_le
        have hpos : 0 < c.bump.skipSpace.rest.length := by simp [hr]
        rw [List.length_tail] at hs
        omega
      simp only [List.isEmpty_cons, Bool.not_false, Bool.not_true, Bool.false_eq_true, if_false,
        run_next_bind, hr, List.head?_cons]
      refine (ih (fun h => hbrace ?_) hshort).bind _
      exact (List.tail_suffix _).subset (hsuffix.subset h)

theorem bracedName_succ : bracedName (n + 1) = braced fun d =>
    bracedName n >>= fun ds => pure (d :: ds) :=
  rfl

theorem follows_bracedName (hc : c.Ready K) (hne : c.rest ≠ []) (hn : c.rest.length < n)
    (hm : c.rest.length + 2 < m) :
    Follows K True [] 0 c ((bracedName n).run c) ((bracedName m).run c.embedded) := by
  induction n generalizing m c with
  | zero => omega
  | succ n ih =>
    obtain ⟨m, rfl⟩ : ∃ i, m = i + 1 := ⟨m - 1, by omega⟩
    rw [bracedName_succ, bracedName_succ]
    refine follows_braced hc hne (fun hend => Lost.bind (lost_bracedName ?_ ?_) _)
      fun d h hne' => ?_
    · simp [rest_embedded_of_end hend]
    · have hpos : 0 < c.rest.length := List.length_pos_iff.mpr hne
      rw [rest_embedded_of_end hend]
      simp only [List.length_cons, List.length_nil]
      omega
    · have hs := h.shorter
      exact (ih (hc.reaches h) hne' (by omega) (by omega)).map fun _ => rfl

theorem follows_propertyEscape {negated : Bool} (hc : c.Ready K) (hne : c.rest ≠ []) :
    Follows K False ['$'] 1 c ((propertyEscape start negated).run c)
      ((propertyEscape (moved start) negated).run c.embedded) := by
  unfold propertyEscape
  refine Follows.bumpAndSkip_or hc hne (fun _ => ⟨_, rfl⟩) (fun he => ?_) fun h hne => ?_
  · simp only [run_next_bind, head?_embedded_of_end he]
    exact lost_bumpAndSkip_of_end he
  · have hc := hc.reaches h
    obtain ⟨d, r, hr⟩ := List.exists_cons_of_ne_nil hne
    simp only [run_next_bind, head?_embedded hr, hr, List.head?_cons]
    by_cases hbrace : d = '\x7b'
    · subst hbrace
      simp only [run_fuelLeft_bind]
      refine Follows.mono (u := []) ?_ (Nat.le_refl _) List.nil_suffix
      refine (follows_bracedName hc hne (Nat.lt_succ_self _) ?_).bind_refusing ?_
        fun name c' h' hne' => ?_
      · simp [rest_embedded, closing]
      · intro name c' hend
        exact ⟨_, by simp [hend]; rfl⟩
      · have hc' := hc.reaches h'
        simp only [run_atEnd_bind, List.isEmpty_eq_false_iff.mpr hne',
          List.isEmpty_eq_false_iff.mpr c'.rest_embedded_ne_nil, Bool.false_eq_true, if_false,
          moved_eq name]
        refine (Follows.bump hc' hne' fun _ => ?_).least
        exact .here _
    · by_cases hslash : d = '\\'
      · subst hslash
        exact .refused
      · simp only
        refine (Follows.bumpAndSkip hc hne fun _ => ?_).least
        exact .here _

/-- What is left is an opening brace, with nothing but ignored blanks behind it. -/
structure Cursor.Stray (c : Cursor) : Prop where
  next : c.rest.head? = some '\x7b'
  behind : c.bump.skipSpace.rest = []

/-- The reading of a word boundary refuses a brace that nothing follows. What closes the pattern
follows, and the brace is left for a repetition. -/
inductive FollowsOrStray (K : Prop) (u : List Char) (k : Nat) (c : Cursor) :
    Reading Primitive → Reading Primitive → Prop
  | follows {r₁ r₂ : Reading Primitive} (h : Follows K False u k c r₁ r₂) :
      FollowsOrStray K u k c r₁ r₂
  | stray {e : SyntaxError} {c' : Cursor} (span : Span) (h : c.Reaches k c') (hs : c'.Stray) :
      FollowsOrStray K u k c (.error e) (.ok (.assertion (moved span) .wordBoundary, c'.embedded))

theorem FollowsOrStray.mono {r₁ r₂ : Reading Primitive} {v : List Char}
    (h : FollowsOrStray K u k c r₁ r₂) (huv : u <:+ v) : FollowsOrStray K v k c r₁ r₂ := by
  cases h with
  | follows h => exact .follows (h.mono (Nat.le_refl _) huv)
  | stray span h hs => exact .stray span h hs

theorem FollowsOrStray.least {r₁ r₂ : Reading Primitive} {k : Nat}
    (h : FollowsOrStray K u k c r₁ r₂) : FollowsOrStray K u 0 c r₁ r₂ := by
  cases h with
  | follows h => exact .follows h.least
  | stray span h hs => exact .stray span (h.mono (Nat.zero_le k)) hs

theorem FollowsOrStray.behind {r₁ r₂ : Reading Primitive} {k : Nat} {c' : Cursor}
    (hr : c.Reaches k c') (h : FollowsOrStray K u 0 c' r₁ r₂) : FollowsOrStray K u k c r₁ r₂ := by
  cases h with
  | follows h => exact .follows (h.behind hr)
  | stray span h hs => exact .stray span (hr.trans h) hs

/-- A reading that goes on behind a plain character or an escape. A brace that is left behind a word
boundary has to be refused. -/
theorem FollowsOrStray.bind {α : Type} [Placed α] {x₁ x₂ : Parse Primitive}
    {f₁ f₂ : Primitive → Parse α} (hx : FollowsOrStray K u k c (x₁.run c) (x₂.run c.embedded))
    (hstray : ∀ span c', c.Reaches k c' → c'.Stray →
      Lost u ((f₂ (.assertion (moved span) .wordBoundary)).run c'.embedded))
    (hf : ∀ p c', c.Reaches k c' →
      Follows K False u 0 c' ((f₁ p).run c') ((f₂ (moved p)).run c'.embedded)) :
    Follows K False u k c ((x₁ >>= f₁).run c) ((x₂ >>= f₂).run c.embedded) := by
  generalize hr₁ : x₁.run c = r₁, hr₂ : x₂.run c.embedded = r₂ at hx
  cases hx with
  | follows h =>
    rw [← hr₁, ← hr₂] at h
    exact h.bind hf
  | stray span h hs =>
    rw [run_bind, run_bind, hr₁, hr₂]
    exact .of_error (hstray span _ h hs)

theorem Cursor.Stray.ne_nil (h : c.Stray) : c.rest ≠ [] := by
  intro hr
  have hn := h.next
  rw [hr] at hn
  cases hn

theorem Cursor.Stray.skipSpace (h : c.Stray) : c.embedded.skipSpace = c.embedded := by
  obtain ⟨r, hr⟩ := List.head?_eq_some_iff.mp h.next
  have he : c.embedded.rest = '\x7b' :: (r ++ closing) := by simp [rest_embedded, hr]
  unfold Cursor.skipSpace
  split
  · rw [he, List.length_cons, skipIgnored_cons he]
    rfl
  · rfl

theorem follows_boundaryName (hc : c.Ready K) (hne : c.rest ≠ []) :
    Follows K False u 0 c (boundaryName.run c) (boundaryName.run c.embedded) := by
  unfold boundaryName
  simp only [run_place_bind]
  refine (Follows.bumpAndSkip hc hne fun h => ?_).least
  have hc := hc.reaches h
  simp only [run_fuelLeft_bind, run_place_bind]
  refine (follows_charsRun (by decide) hc (Nat.lt_succ_self _) (length_lt_fuel _)).bind
    fun name c' h' => ?_
  simp only [moved_eq name, run_next_bind]
  cases hr : c'.rest with
  | nil =>
    rw [head?_embedded_of_end hr]
    exact .refused
  | cons d r =>
    have hne' : c'.rest ≠ [] := by simp [hr]
    simp only [head?_embedded hr, List.head?_cons]
    by_cases hd : d = '\x7d'
    · simp only [hd, bne_self_eq_false, Bool.false_eq_true, if_false, run_place_bind]
      refine (Follows.bump (hc.reaches h') hne' fun _ => ?_).least
      cases boundaryKind? (String.ofList name) with
      | none => exact .refused
      | some kind => exact .here _
    · have hd' : (some d != some '\x7d') = true := by simpa using hd
      simp only [hd', if_true]
      exact .refused

theorem follows_boundaryAt {named : Bool} (hc : c.Ready K) (hne : c.rest ≠ []) :
    Follows K False u 0 c ((boundaryAt start named).run c)
      ((boundaryAt (moved start) named).run c.embedded) := by
  unfold boundaryAt
  cases named with
  | false => exact .here _
  | true => exact (follows_boundaryName hc hne).bind fun _ _ _ => .here _

theorem run_isBoundaryName (f : Bool → Parse Primitive) :
    (isBoundaryName start >>= f).run c =
      if c.bump.skipSpace.rest = [] then
        .error ⟨.wordBoundaryUnexpectedEnd, ⟨start, c.bump.skipSpace.place⟩, none⟩
      else (f (c.bump.skipSpace.rest.head?.any isBoundaryNamePart)).run c := by
  rw [isBoundaryName, run_ahead_bind, run_bumpAndSkip_bind]
  cases h : c.bump.skipSpace.rest <;> simp [h, run_refuse_bind]

theorem follows_wordBoundary (hc : c.Ready K) :
    FollowsOrStray K u 0 c ((wordBoundary start).run c)
      ((wordBoundary (moved start)).run c.embedded) := by
  unfold wordBoundary
  cases hr : c.rest with
  | nil =>
    simp only [run_next_bind, hr, head?_embedded_of_end hr]
    exact .follows (.here _)
  | cons d r =>
    have hne : c.rest ≠ [] := by simp [hr]
    have hb : c.Reaches 1 c.bump := reaches_bump hne
    simp only [run_next_bind, hr, head?_embedded hr, List.head?_cons]
    by_cases hd : d = '\x7b'
    · simp only [hd, BEq.rfl, if_true, run_isBoundaryName, bump_embedded hne hc.line]
      rcases skipSpace_embedded (hc.reaches hb) with he | ⟨hK, hend⟩
      · rw [he, if_neg (rest_embedded_ne_nil _)]
        cases hr' : c.bump.skipSpace.rest with
        | nil =>
          rw [if_pos rfl, head?_embedded_of_end hr']
          exact .stray ⟨start, c.place⟩ (.refl c) ⟨by simp [hr, hd], hr'⟩
        | cons d' r' =>
          rw [if_neg (List.cons_ne_nil d' r'), head?_embedded hr', List.head?_cons]
          exact .follows (follows_boundaryAt hc hne)
      · rw [if_pos hend]
        exact .follows (.lost lost_error fun _ _ _ h => absurd h hK)
    · have hd' : ¬ (some d == some '\x7b') = true := by simpa using hd
      simp only [if_neg hd']
      exact .follows (follows_boundaryAt hc hne)

theorem escapeOf_parenthesis : escapeOf start ')' = bump >>= fun _ =>
    spanFrom start >>= fun span => pure (.literal ⟨span, ')', false⟩) :=
  rfl

theorem follows_escapeOf (hc : c.Ready K) {d : Char} (hd : c.rest.head? = some d) :
    FollowsOrStray K ['$'] 1 c ((escapeOf start d).run c)
      ((escapeOf (moved start) d).run c.embedded) := by
  have hne : c.rest ≠ [] := by
    rintro hr
    rw [hr] at hd
    cases hd
  unfold escapeOf
  simp only [run_ite]
  split
  · exact .follows .refused
  · split
    · exact .follows ((follows_hexEscape hc hne).map fun _ => rfl)
    · split
      · exact .follows (follows_propertyEscape hc hne)
      · simp only [run_bump_bind, bump_embedded hne hc.line]
        have hb : c.Reaches 1 c.bump := reaches_bump hne
        refine FollowsOrStray.behind hb ?_
        simp only [run_spanFrom_bind]
        cases letterClass? d with
        | some class_ => exact .follows (.here _)
        | none =>
          cases control? d with
          | some e => exact .follows (.here _)
          | none =>
            simp only [run_ite]
            split
            · exact .follows (.here _)
            · cases assertion? d with
              | some a => exact .follows (.here _)
              | none =>
                simp only [run_ite]
                split
                · exact follows_wordBoundary (hc.reaches hb)
                · exact .follows .refused

theorem follows_escape (hc : c.Ready K) (hne : c.rest ≠ []) :
    FollowsOrStray K ['$'] 1 c (escape.run c) (escape.run c.embedded) := by
  have hb : c.Reaches 1 c.bump := reaches_bump hne
  unfold escape
  simp only [run_place_bind, run_bump_bind, bump_embedded hne hc.line]
  refine FollowsOrStray.behind hb ?_
  have hmore : (!c.bump.embedded.rest.isEmpty) = true := by
    simp [c.bump.rest_embedded_ne_nil]
  simp only [hmore, Bool.not_true, Bool.false_eq_true, if_false]
  cases hr : c.bump.rest with
  | nil =>
    refine .follows (.of_error ?_)
    simp only [run_next_bind, head?_embedded_of_end hr, Option.getD_some, escapeOf_parenthesis]
    exact lost_bump_of_end hr
  | cons d r =>
    simp only [List.isEmpty_cons, Bool.not_false, Bool.not_true, Bool.false_eq_true, if_false,
      run_next_bind, hr, head?_embedded hr, List.head?_cons, Option.getD_some]
    exact (follows_escapeOf (hc.reaches hb) (by simp [hr])).least

theorem follows_primitive (hc : c.Ready K) (hne : c.rest ≠ []) :
    FollowsOrStray K ['$'] 1 c (primitive.run c) (primitive.run c.embedded) := by
  obtain ⟨d, r, hr⟩ := List.exists_cons_of_ne_nil hne
  unfold primitive
  simp only [run_charSpan_bind, run_next_bind, hr, head?_embedded hr, List.head?_cons,
    charSpan_embedded hc hne]
  by_cases hd : d = '\\'
  · subst hd
    exact follows_escape hc hne
  · simp only
    refine .follows (Follows.bump hc hne fun _ => ?_)
    split <;> exact .here _

end AppDef.Pattern
