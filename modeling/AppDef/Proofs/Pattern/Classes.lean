import AppDef.Proofs.Pattern.Primitives

namespace AppDef.Pattern

open Text Parse Cursor

variable {K : Prop} {u : List Char} {c : Cursor} {n m k : Nat} {start : Place}

namespace Cursor

theorem lost_of_embedded_end {α : Type} (x : Parse α) (h : c.rest = []) :
    Lost closing (x.run c.embedded) :=
  x.lost (by rw [rest_embedded, h]; exact List.suffix_refl _)

theorem dropWhile_closing {p : Char → Bool} (hp : p ')' = false) (s : List Char) :
    (s ++ closing).dropWhile p = s.dropWhile p ++ closing := by
  rw [List.dropWhile_append]
  split
  · rename_i h
    rw [List.isEmpty_iff.mp h]
    simp [closing, hp]
  · rfl

theorem pastBlanks_closing (text : List Char) :
    pastBlanks (text ++ closing) = pastBlanks text ++ closing := by
  unfold pastBlanks
  rw [dropWhile_closing rfl]
  cases text.dropWhile isBlank with
  | nil => rfl
  | cons d r =>
    by_cases hd : d = '#'
    · subst hd
      exact dropWhile_closing rfl r
    · simp only [List.cons_append]
      split <;> simp_all

theorem head?_pastBlanks {text : List Char} {mark : Char} (h : text.head? = some mark)
    (hblank : isBlank mark = false) (hsign : mark ≠ '#') :
    (pastBlanks text).head? = some mark := by
  obtain ⟨r, rfl⟩ := List.head?_eq_some_iff.mp h
  unfold pastBlanks
  rw [List.dropWhile_cons_of_neg (by simp [hblank])]
  split
  · rename_i heq
    exact absurd (List.cons.inj heq).1 hsign
  · rfl

theorem head?_closing (text : List Char) : (text ++ closing).head? = text.head?.or (some ')') := by
  cases text <;> rfl

/-- What stands behind the next character, as far as a mark is looked for that ends an item. -/
theorem peekSpace?_embedded (hne : c.rest ≠ []) (mark : Char) (hblank : isBlank mark = false)
    (hsign : mark ≠ '#') (hparen : mark ≠ ')') :
    (c.embedded.peekSpace? == some mark) = (c.peekSpace? == some mark) := by
  obtain ⟨d, r, hr⟩ := List.exists_cons_of_ne_nil hne
  have he : c.embedded.rest = d :: (r ++ closing) := by simp [embedded, hr]
  have hi : c.embedded.ignoreSpace = c.ignoreSpace := rfl
  have hend : (some ')' == some mark) = false := by simpa using hparen.symm
  simp only [peekSpace?, peek?, he, hi, hr, List.tail_cons, pastBlanks_closing, head?_closing]
  split
  · cases hs : (pastBlanks r).head? with
    | none =>
      have hnot : (r.head? == some mark) = false := by
        simp only [beq_eq_false_iff_ne]
        intro h
        rw [head?_pastBlanks h hblank hsign] at hs
        cases hs
      simp [hend, hnot]
    | some x => rfl
  · cases r.head? with
    | none => simp [hend]
    | some x => rfl

theorem setOp?_embedded (c : Cursor) : setOp? c.embedded = setOp? c := by
  unfold setOp?
  rw [rest_embedded]
  match c.rest with
  | [] => rfl
  | [d] =>
    simp only [closing, List.cons_append, List.nil_append]
    split <;> simp_all
  | d :: e :: r =>
    simp only [List.cons_append]
    split <;> simp_all

theorem colonName?_closing (text : List Char) : colonName? (text ++ closing) = colonName? text := by
  unfold colonName?
  rw [List.dropWhile_append]
  cases hd : text.dropWhile (· != ':') with
  | nil => rfl
  | cons d r =>
    have htake : (text ++ closing).takeWhile (· != ':') = text.takeWhile (· != ':') := by
      have hlength :=
        congrArg List.length (List.takeWhile_append_dropWhile (p := (· != ':')) (l := text))
      rw [hd, List.length_append, List.length_cons] at hlength
      rw [List.takeWhile_append, if_neg (by omega)]
    rw [htake]
    simp only [List.isEmpty_cons, Bool.false_eq_true, if_false, List.cons_append]
    match r with
    | [] =>
      simp only [closing, List.nil_append]
      split <;> simp_all
    | e :: r =>
      simp only [List.cons_append]
      split <;> simp_all

theorem asciiName?_closing (text : List Char) : asciiName? (text ++ closing) = asciiName? text := by
  match text with
  | [] => rfl
  | [d] =>
    simp only [asciiName?, closing, List.cons_append, List.nil_append]
    split <;> simp_all
  | d :: e :: r =>
    by_cases h : d = '[' ∧ e = ':'
    · obtain ⟨rfl, rfl⟩ := h
      simp only [asciiName?, List.cons_append]
      cases r with
      | nil => rfl
      | cons f r => rw [List.cons_append, List.head?_cons, List.head?_cons, List.tail_cons,
          List.tail_cons, ← List.cons_append, colonName?_closing, colonName?_closing]
    · simp only [asciiName?, List.cons_append]
      split <;> simp_all

theorem colonName?_length {text name : List Char} (h : colonName? text = some name) :
    name.length + 2 ≤ text.length := by
  unfold colonName? at h
  have hlength :=
    congrArg List.length (List.takeWhile_append_dropWhile (p := (· != ':')) (l := text))
  split at h
  · rename_i heq
    rw [heq] at hlength
    simp only [List.length_append, List.length_cons] at hlength
    dsimp only at h
    split at h
    · cases h
      omega
    · cases h
  · cases h

theorem asciiName?_length {text name : List Char} {negated : Bool}
    (h : asciiName? text = some (name, negated, k)) : 0 < k ∧ k ≤ text.length := by
  unfold asciiName? at h
  split at h
  · rename_i r
    split at h
    · obtain ⟨name', hname, heq⟩ := Option.map_eq_some_iff.mp h
      have hl := colonName?_length hname
      cases heq
      simp only [List.length_tail, List.length_cons] at hl ⊢
      omega
    · obtain ⟨name', hname, heq⟩ := Option.map_eq_some_iff.mp h
      have hl := colonName?_length hname
      cases heq
      simp only [List.length_cons] at hl ⊢
      omega
  · cases h

theorem bumps_embedded (hc : c.Ready K) (hk : k ≤ c.rest.length) :
    c.embedded.bumps k = (c.bumps k).embedded ∧ c.Reaches k (c.bumps k) := by
  induction k generalizing c with
  | zero => exact ⟨rfl, .refl c⟩
  | succ k ih =>
    have hne : c.rest ≠ [] := by
      rintro hr
      simp [hr] at hk
    have hb : c.Reaches 1 c.bump := reaches_bump hne
    have hshort : k ≤ c.bump.rest.length := by
      rw [rest_bump, List.length_tail]
      omega
    obtain ⟨he, hr⟩ := ih (hc.reaches hb) hshort
    refine ⟨?_, (hb.trans hr).mono (by omega)⟩
    rw [bumps, bump_embedded hne hc.line, he]
    rfl

end Cursor

theorem follows_leadingMinus {items : Items} (hc : c.Ready K) (hn : c.rest.length < n)
    (hm : c.rest.length < m) :
    Follows K False closing 0 c ((leadingMinus start n items).run c)
      ((leadingMinus (moved start) m (moved items)).run c.embedded) := by
  induction n generalizing m c items with
  | zero => omega
  | succ n ih =>
    obtain ⟨m, rfl⟩ : ∃ i, m = i + 1 := ⟨m - 1, by omega⟩
    unfold leadingMinus
    simp only [run_next_bind]
    cases hr : c.rest with
    | nil =>
      rw [head?_embedded_of_end hr]
      exact .here _
    | cons d r =>
      have hne : c.rest ≠ [] := by simp [hr]
      simp only [head?_embedded hr, List.head?_cons]
      by_cases hd : d = '-'
      · have hpush : (moved items).push (.literal ⟨moved c.charSpan, '-', false⟩) =
            moved (items.push (.literal ⟨c.charSpan, '-', false⟩)) :=
          Items.push_moved items (.literal ⟨c.charSpan, '-', false⟩)
        simp only [hd, BEq.rfl, if_true, run_charSpan_bind, charSpan_embedded hc hne, hpush]
        refine (Follows.bumpAndSkip_or hc hne (fun _ => ⟨_, rfl⟩) (lost_of_embedded_end _)
          fun h _ => ?_).least
        have hs := h.shorter
        exact ih (hc.reaches h) (by omega) (by omega)
      · have hd' : (some d == some '-') = false := by simpa using hd
        simp only [hd', Bool.false_eq_true, if_false]
        exact .here _

theorem follows_classCaret (hc : c.Ready K) (hne : c.rest ≠ []) :
    Follows K False closing 0 c ((classCaret start).run c)
      ((classCaret (moved start)).run c.embedded) := by
  obtain ⟨d, r, hr⟩ := List.exists_cons_of_ne_nil hne
  unfold classCaret
  simp only [run_next_bind, head?_embedded hr, hr, List.head?_cons, run_ite]
  split
  · exact (Follows.bumpAndSkip_or hc hne (fun _ => ⟨_, rfl⟩) (lost_of_embedded_end _)
      fun _ _ => .here _).least
  · exact .here _

theorem follows_firstItems (hc : c.Ready K) :
    Follows K False closing 0 c ((firstItems start).run c)
      ((firstItems (moved start)).run c.embedded) := by
  unfold firstItems
  simp only [run_fuelLeft_bind, run_place_bind]
  refine (follows_leadingMinus hc (Nat.lt_succ_self _) c.length_lt_fuel).bind fun items c' h => ?_
  have hc := hc.reaches h
  simp only [run_next_bind, Items.isEmpty_moved]
  cases hr : c'.rest with
  | nil =>
    have hparen : (some ')' == some ']') = false := rfl
    have hnone : ((none : Option Char) == some ']') = false := rfl
    simp only [head?_embedded_of_end hr, List.head?_nil, hparen, hnone, Bool.and_false,
      Bool.false_eq_true, if_false]
    exact .here _
  | cons d r =>
    have hne : c'.rest ≠ [] := by simp [hr]
    simp only [head?_embedded hr, List.head?_cons]
    rcases Bool.eq_false_or_eq_true (items.items.isEmpty && some d == some ']') with hb | hb
    · have hpush : (moved items).push (.literal ⟨moved c'.charSpan, ']', false⟩) =
          moved (items.push (.literal ⟨c'.charSpan, ']', false⟩)) :=
        Items.push_moved items (.literal ⟨c'.charSpan, ']', false⟩)
      simp only [hb, if_true, run_charSpan_bind, charSpan_embedded hc hne, hpush]
      exact (Follows.bumpAndSkip_or hc hne (fun _ => ⟨_, rfl⟩) (lost_of_embedded_end _)
        fun _ _ => .here _).least
    · simp only [hb, Bool.false_eq_true, if_false]
      exact .here _

theorem follows_openClass (hc : c.Ready K) (hne : c.rest ≠ []) :
    Follows K False closing 1 c (openClass.run c) (openClass.run c.embedded) := by
  unfold openClass
  simp only [run_place_bind]
  refine Follows.bumpAndSkip_or hc hne (fun _ => ⟨_, rfl⟩) (lost_of_embedded_end _) fun h hne => ?_
  have hc := hc.reaches h
  refine (follows_classCaret hc hne).bind fun negated c₁ h₁ => ?_
  refine (follows_firstItems (hc.reaches h₁)).bind fun items c₂ h₂ => ?_
  exact .here _

theorem unclosed_error {α : Type} (frames : List ClassFrame) (c : Cursor) :
    ∃ e, (unclosed frames : Parse α).run c = .error e :=
  ⟨_, rfl⟩

theorem follows_classItem (hc : c.Ready K) (hne : c.rest ≠ []) :
    FollowsOrStray K closing 1 c (classItem.run c) (classItem.run c.embedded) := by
  obtain ⟨d, r, hr⟩ := List.exists_cons_of_ne_nil hne
  unfold classItem
  simp only [run_next_bind, head?_embedded hr, hr, List.head?_cons, run_ite]
  split
  · exact (follows_escape hc hne).mono (List.suffix_cons ')' _)
  · simp only [run_charSpan_bind, run_next_bind, charSpan_embedded hc hne, hr, head?_embedded hr]
    exact .follows (Follows.bump hc hne fun _ => .here _)

theorem follows_toItem (p : Primitive) :
    Follows K False u 0 c (p.toItem.run c) ((moved p).toItem.run c.embedded) := by
  cases p with
  | literal l => exact .here (ClassSet.literal l)
  | assertion span a => exact .refused
  | dot span => exact .refused
  | simple span class_ => exact .here (ClassSet.simple span class_)

theorem follows_toBound (p : Primitive) :
    Follows K False u 0 c (p.toBound.run c) ((moved p).toBound.run c.embedded) := by
  cases p with
  | literal l => exact .here l
  | assertion span a => exact .refused
  | dot span => exact .refused
  | simple span class_ => exact .refused

theorem isRange_embedded (hne : c.rest ≠ []) : isRange c.embedded = isRange c := by
  obtain ⟨d, r, hr⟩ := List.exists_cons_of_ne_nil hne
  have hbracket := peekSpace?_embedded hne ']' rfl (by decide) (by decide)
  have hminus := peekSpace?_embedded hne '-' rfl (by decide) (by decide)
  simp only [isRange, head?_embedded hr, hr, List.head?_cons, bne, hbracket, hminus]

theorem rangeOf_error (first : Primitive) {second : Primitive}
    (h : ∀ c, ∃ e, second.toBound.run c = .error e) (c : Cursor) :
    ∃ e, (rangeOf first second).run c = .error e := by
  unfold rangeOf
  rw [run_bind]
  cases first.toBound.run c with
  | error e => exact ⟨e, rfl⟩
  | ok p =>
    obtain ⟨e, he⟩ := h p.2
    exact ⟨e, by simp only [run_bind, he]⟩

theorem follows_rangeOf (first second : Primitive) :
    Follows K False u 0 c ((rangeOf first second).run c)
      ((rangeOf (moved first) (moved second)).run c.embedded) := by
  unfold rangeOf
  refine (follows_toBound first).bind fun low c₁ _ => ?_
  refine (follows_toBound second).bind fun high c₂ _ => ?_
  rw [Primitive.span_moved, Primitive.span_moved]
  by_cases hlt : high.character < low.character
  · rw [if_pos hlt, if_pos (show (moved high).character < (moved low).character from hlt)]
    exact .refused
  · rw [if_neg hlt, if_neg (show ¬ (moved high).character < (moved low).character from hlt)]
    exact .here (ClassSet.range ⟨first.span.start, second.span.stop⟩ low high)

theorem toBound_stray_error (span : Span) (c : Cursor) :
    ∃ e, (Primitive.assertion span .wordBoundary).toBound.run c = .error e :=
  ⟨_, rfl⟩

theorem follows_rangeFrom {frames : List ClassFrame} (first : Primitive) (hc : c.Ready K) :
    Follows K False closing 0 c ((rangeFrom frames first).run c)
      ((rangeFrom (moved frames) (moved first)).run c.embedded) := by
  unfold rangeFrom
  cases hr : c.rest with
  | nil =>
    simp only [run_atEnd_bind, hr, List.isEmpty_nil, if_true]
    exact .of_error (lost_of_embedded_end _ hr)
  | cons d r =>
    have hne : c.rest ≠ [] := by simp [hr]
    simp only [run_atEnd_bind, hr, List.isEmpty_cons,
      List.isEmpty_eq_false_iff.mpr c.rest_embedded_ne_nil, Bool.false_eq_true, if_false,
      run_see_bind, isRange_embedded hne, run_ite]
    split
    · refine (Follows.bumpAndSkip_or hc hne (unclosed_error frames) (lost_of_embedded_end _)
        fun h hne' => ?_).least
      refine ((follows_classItem (hc.reaches h) hne').bind (fun span c' _ _ => ?_)
        fun second c' _ => follows_rangeOf first second).least
      obtain ⟨e, he⟩ := rangeOf_error (moved first) (toBound_stray_error (moved span)) c'.embedded
      exact he ▸ lost_error
    · exact follows_toItem first

theorem follows_classRange {frames : List ClassFrame} (hc : c.Ready K) (hne : c.rest ≠ []) :
    Follows K False closing 1 c ((classRange frames).run c)
      ((classRange (moved frames)).run c.embedded) := by
  unfold classRange
  refine (follows_classItem hc hne).bind (fun span c' _ hs => ?_) fun first c₁ h₁ => ?_
  · have hrange : isRange c'.embedded = false := by
      rw [isRange_embedded hs.ne_nil, isRange, hs.next]
      rfl
    simp only [run_skipSpace_bind, hs.skipSpace, rangeFrom, run_atEnd_bind,
      List.isEmpty_eq_false_iff.mpr c'.rest_embedded_ne_nil, Bool.false_eq_true, if_false,
      run_see_bind, hrange]
    exact lost_error
  · simp only [run_skipSpace_bind]
    exact Follows.skip (hc.reaches h₁) (fun _ => rangeFrom (moved frames) (moved first))
      (follows_rangeFrom first ((hc.reaches h₁).reaches c₁.reaches_skipSpace))

theorem suffix_closing {s : List Char} (h : s <:+ closing) : s = closing ∨ s = ['$'] ∨ s = [] := by
  simpa [closing, List.suffix_cons_iff] using h

/-- Behind the pattern no class is closed. -/
theorem classLoop_closing (frames : List ClassFrame) (items : Items)
    (h : c.skipSpace.rest <:+ closing) : ∃ e, (classLoop n frames items).run c = .error e := by
  induction n generalizing c frames items with
  | zero => exact ⟨_, rfl⟩
  | succ n ih =>
    have hstep (d : Char) (hopen : d ≠ '[') (hop : setOp? c.skipSpace = none) :
        ∃ e, (classStep d frames items >>= fun state => classLoop n state.1 state.2).run
          c.skipSpace = .error e := by
      simp only [classStep, if_neg hopen]
      rw [run_bind, run_see_bind, hop, run_bind]
      cases hx : (classRange frames).run c.skipSpace with
      | error e => exact ⟨e, rfl⟩
      | ok p => exact ih _ _ ((p.2.skipSpace_suffix.trans ((classRange frames).forward hx)).trans h)
    unfold classLoop
    rw [run_skipSpace_bind, run_next_bind]
    rcases suffix_closing h with hr | hr | hr
    · have hop : setOp? c.skipSpace = none := by rw [setOp?, hr]; rfl
      simp only [hr, closing, List.head?_cons]
      exact hstep ')' (by decide) hop
    · have hop : setOp? c.skipSpace = none := by rw [setOp?, hr]; rfl
      simp only [hr, List.head?_cons]
      exact hstep '$' (by decide) hop
    · rw [hr]
      exact ⟨_, rfl⟩

theorem run_asciiClass?_bind {α : Type} {frames : List ClassFrame}
    (f : Option ClassSet → Parse α) : (asciiClass? frames >>= f).run c =
      match if frames.isEmpty then none else asciiName? c.rest with
      | some (name, negated, length) =>
        (f (some (.ascii ⟨c.place, (c.bumps length).place⟩ (String.ofList name) negated))).run
          (c.bumps length)
      | none => (f none).run c := by
  rw [run_bind, asciiClass?, run_place_bind, run_see_bind]
  cases if frames.isEmpty then none else asciiName? c.rest <;> rfl

theorem follows_openNested {frames : List ClassFrame} {items : Items} (hc : c.Ready K)
    (hne : c.rest ≠ []) :
    Follows K False closing 1 c ((openNested frames items).run c)
      ((openNested (moved frames) (moved items)).run c.embedded) := by
  unfold openNested
  simp only [run_asciiClass?_bind, rest_embedded, asciiName?_closing, isEmpty_moved]
  cases hname : if frames.isEmpty then none else asciiName? c.rest with
  | none => exact (follows_openClass hc hne).bind fun _ _ _ => .here _
  | some found =>
    obtain ⟨name, negated, length⟩ := found
    have hlength : 0 < length ∧ length ≤ c.rest.length := by
      split at hname
      · cases hname
      · exact asciiName?_length hname
    obtain ⟨he, hr⟩ := bumps_embedded hc hlength.2
    let item : ClassSet := .ascii ⟨c.place, (c.bumps length).place⟩ (String.ofList name) negated
    have hpush : (moved items).push (moved item) = moved (items.push item) :=
      Items.push_moved items item
    dsimp only
    rw [he]
    refine Follows.behind (hr.mono hlength.1) ?_
    change Follows K False closing 0 _ (.ok ((frames, items.push item), _))
      (.ok ((moved frames, (moved items).push (moved item)), _))
    rw [hpush]
    exact .here (frames, items.push item)

theorem follows_operator {op : SetOp} {frames : List ClassFrame} {items : Items} (hc : c.Ready K)
    (hop : setOp? c = some op) :
    Follows K False u 1 c ((operator op frames items).run c)
      ((operator op (moved frames) (moved items)).run c.embedded) := by
  have hlength : 2 ≤ c.rest.length := by
    unfold setOp? at hop
    split at hop <;> simp_all
  obtain ⟨he, hr⟩ := bumps_embedded hc hlength
  unfold operator
  rw [run_bumps_bind, run_bumps_bind, he, Items.toSet_moved, joinOp_moved]
  exact Follows.behind (hr.mono (by decide)) (.here _)

theorem follows_classStep {d : Char} {frames : List ClassFrame} {items : Items} (hc : c.Ready K)
    (hne : c.rest ≠ []) :
    Follows K False closing 1 c ((classStep d frames items).run c)
      ((classStep d (moved frames) (moved items)).run c.embedded) := by
  unfold classStep
  simp only [run_ite]
  split
  · exact follows_openNested hc hne
  · simp only [run_see_bind, setOp?_embedded]
    cases hop : setOp? c with
    | some op => exact follows_operator hc hop
    | none =>
      exact (follows_classRange hc hne).map fun item =>
        congrArg (Prod.mk (moved frames)) (Items.push_moved items item)

theorem follows_closeNested {frames : List ClassFrame} {items : Items} (hc : c.Ready K)
    (hne : c.rest ≠ []) :
    Follows K False u 1 c ((closeNested frames items).run c)
      ((closeNested (moved frames) (moved items)).run c.embedded) := by
  unfold closeNested
  rw [Items.toSet_moved, joinOp_moved]
  obtain ⟨set, frames⟩ := joinOp frames items.toSet
  cases frames with
  | nil => exact .refused
  | cons frame frames =>
    cases frame with
    | op op left => exact .refused
    | opened outer span negated =>
      refine Follows.bump hc hne fun _ => ?_
      let item : ClassSet := .bracketed ⟨span.start, c.bump.place⟩ negated set
      have hpush : (moved outer).push (moved item) = moved (outer.push item) :=
        Items.push_moved outer item
      cases frames with
      | nil => exact .here (ClassState.whole (.bracketed ⟨span.start, c.bump.place⟩ negated set))
      | cons frame frames =>
        change Follows K False u 0 _
          (.ok (ClassState.inside (frame :: frames) (outer.push item), _))
          (.ok (ClassState.inside (moved (frame :: frames)) ((moved outer).push (moved item)), _))
        rw [hpush]
        exact .here (ClassState.inside (frame :: frames) (outer.push item))

theorem follows_classLoop {frames : List ClassFrame} {items : Items} (hc : c.Ready K)
    (hn : c.rest.length < n) (hm : c.rest.length < m) :
    Follows K False u 1 c ((classLoop n frames items).run c)
      ((classLoop m (moved frames) (moved items)).run c.embedded) := by
  induction n generalizing m c frames items with
  | zero => omega
  | succ n ih =>
    obtain ⟨m, rfl⟩ : ∃ i, m = i + 1 := ⟨m - 1, by omega⟩
    cases hr : c.skipSpace.rest with
    | nil =>
      have hbehind : c.embedded.skipSpace.rest <:+ closing := by
        rcases skipSpace_embedded hc with he | ⟨-, hend⟩
        · rw [he, rest_embedded, hr]
          exact List.suffix_refl _
        · rw [hend]
          exact List.nil_suffix
      obtain ⟨e, he⟩ := classLoop_closing (n := m + 1) (moved frames) (moved items) hbehind
      rw [he]
      unfold classLoop
      rw [run_skipSpace_bind, run_next_bind, hr]
      exact .refused
    | cons d r =>
      have hshort := c.reaches_skipSpace.shorter
      unfold classLoop
      rw [run_skipSpace_bind, run_skipSpace_bind]
      refine Follows.skip hc (fun _ => _) ?_
      replace hc := hc.reaches c.reaches_skipSpace
      have hne : c.skipSpace.rest ≠ [] := by simp [hr]
      generalize c.skipSpace = c at hc hshort hr hne
      rw [run_next_bind, run_next_bind, head?_embedded hr, hr, List.head?_cons]
      simp only [run_ite]
      split
      · refine (follows_closeNested hc hne).bind fun state c' h => ?_
        cases state with
        | inside frames items =>
          have hs := h.shorter
          exact (ih (hc.reaches h) (by omega) (by omega)).least
        | whole ast => exact .here ast
      · refine (follows_classStep hc hne).bind_into (fun state c' h => ?_) fun state c' h => ?_
        · obtain ⟨e, he⟩ := classLoop_closing (n := m) state.1 state.2 (c'.skipSpace_suffix.trans h)
          exact he ▸ lost_error
        · have hs := h.shorter
          exact (ih (hc.reaches h) (by omega) (by omega)).least

theorem follows_bracketed (hc : c.Ready K) :
    Follows K False u 1 c (bracketed.run c) (bracketed.run c.embedded) := by
  unfold bracketed
  simp only [run_fuelLeft_bind, run_place_bind]
  exact follows_classLoop hc (Nat.lt_succ_self _) c.length_lt_fuel

end AppDef.Pattern
