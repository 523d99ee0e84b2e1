import AppDef.Proofs.Pattern.Classes

namespace AppDef.Pattern

open Text Parse Cursor

variable {K : Prop} {u : List Char} {c : Cursor} {n m k : Nat} {start : Place}

theorem lookup_moved {α β : Type} [BEq α] [Placed α] [Placeless α] [Placed β]
    (l : List (α × β)) (a : α) : (moved l).lookup a = moved (l.lookup a) := by
  induction l with
  | nil => rfl
  | cons p l ih =>
    change List.lookup a ((moved p.1, moved p.2) :: moved l) = _
    rw [moved_eq p.1, List.lookup_cons, ih, List.lookup_cons]
    cases a == p.1 <;> rfl

theorem items_moved (read : List (FlagItem × Span)) :
    (moved read).reverse.map Prod.fst = moved (read.reverse.map Prod.fst) := by
  simp [moved, List.map_reverse, Function.comp_def]

theorem follows_flagItems {read : List (FlagItem × Span)} (hc : c.Ready K)
    (hn : c.rest.length < n) (hm : c.rest.length < m) :
    Follows K False closing 0 c ((flagItems n read).run c)
      ((flagItems m (moved read)).run c.embedded) := by
  induction n generalizing m c read with
  | zero => omega
  | succ n ih =>
    obtain ⟨m, rfl⟩ : ∃ i, m = i + 1 := ⟨m - 1, by omega⟩
    cases hr : c.rest with
    | nil =>
      refine Follows.lost (lost_of_embedded_end _ hr) fun a c' h => ?_
      simp only [flagItems, run_charSpan_bind, run_next_bind, hr] at h
      cases h
    | cons d r =>
      have hne : c.rest ≠ [] := by simp [hr]
      unfold flagItems
      simp only [run_charSpan_bind, run_next_bind, hr, head?_embedded hr, List.head?_cons,
        charSpan_embedded hc hne, run_ite]
      split
      · match read with
        | [] => exact .here []
        | (.minus, span) :: read => exact .refused
        | (.flag f, span) :: read =>
          change Follows K False closing 0 c (.ok (_, c))
            (.ok ((moved ((FlagItem.flag f, span) :: read)).reverse.map Prod.fst, c.embedded))
          rw [items_moved]
          exact .here _
      · cases flagItem? d with
        | none => exact .refused
        | some item =>
          simp only [lookup_moved]
          cases read.lookup item with
          | some earlier => exact .refused
          | none =>
            refine (Follows.bump_or hc hne (fun _ => ⟨_, rfl⟩) (lost_of_embedded_end _)
              fun h _ => ?_).least
            have hs := h.shorter
            exact ih (hc.reaches h) (by omega) (by omega)

/-- Flags that are read end where they are, or one more is read and the others behind it. -/
theorem cases_of_flagItems {read : List (FlagItem × Span)} {items : List FlagItem} {c' : Cursor}
    (h : (flagItems (n + 1) read).run c = .ok (items, c')) : ∃ d r, c.rest = d :: r ∧
      (c' = c ∧ items = read.reverse.map Prod.fst ∨ ∃ item span, flagItem? d = some item ∧
        (flagItems n ((item, span) :: read)).run c.bump = .ok (items, c')) := by
  cases hr : c.rest with
  | nil =>
    simp only [flagItems, run_charSpan_bind, run_next_bind, hr] at h
    cases h
  | cons d r =>
    refine ⟨d, r, rfl, ?_⟩
    simp only [flagItems, run_charSpan_bind, run_next_bind, hr, List.head?_cons, run_ite] at h
    split at h
    · split at h
      · cases h
      · cases h
        exact .inl ⟨rfl, rfl⟩
    · cases hitem : flagItem? d with
      | none =>
        rw [hitem] at h
        cases h
      | some item =>
        rw [hitem] at h
        cases hearlier : read.lookup item with
        | some earlier =>
          simp only [hearlier] at h
          cases h
        | none =>
          simp only [hearlier, run_bump_bind, run_ite] at h
          split at h
          · cases h
          · exact .inr ⟨item, _, rfl, h⟩

/-- Flags end before a colon or a closing parenthesis. -/
theorem flagItems_more {read : List (FlagItem × Span)} {items : List FlagItem} {c' : Cursor}
    (hn : c.rest.length < n) (h : (flagItems n read).run c = .ok (items, c')) : c'.rest ≠ [] := by
  induction n generalizing c read with
  | zero => omega
  | succ n ih =>
    obtain ⟨d, r, hr, ⟨rfl, -⟩ | ⟨item, span, -, hbehind⟩⟩ := cases_of_flagItems h
    · simp [hr]
    · refine ih ?_ hbehind
      rw [rest_bump, List.length_tail]
      simp only [hr, List.length_cons] at hn ⊢
      omega

theorem isPrefixOf_closing {text : List Char} (h : ')' ∉ text) (s : List Char) :
    text.isPrefixOf (s ++ closing) = text.isPrefixOf s := by
  induction text generalizing s with
  | nil => rfl
  | cons d text ih =>
    cases s with
    | nil =>
      have hd : (d == ')') = false := by
        simp only [beq_eq_false_iff_ne]
        rintro rfl
        exact h List.mem_cons_self
      simp [closing, List.isPrefixOf, hd]
    | cons e s =>
      simp only [List.cons_append, List.isPrefixOf]
      rw [ih (fun hmem => h (List.mem_cons_of_mem d hmem))]

theorem follows_bumpIf {text : String} (h : ')' ∉ text.toList) (hc : c.Ready K) :
    Follows K False u 0 c ((bumpIf text).run c) ((bumpIf text).run c.embedded) := by
  unfold bumpIf
  simp only [run_see_bind, rest_embedded, isPrefixOf_closing h, run_ite]
  split
  · rename_i hp
    have hlength : text.length ≤ c.rest.length := by
      rw [← String.length_toList]
      exact (List.isPrefixOf_iff_prefix.mp hp).length_le
    obtain ⟨he, hr⟩ := bumps_embedded hc hlength
    rw [run_bumps_bind, run_bumps_bind, he]
    exact Follows.behind (hr.mono (Nat.zero_le _)) (.here true)
  · exact .here false

theorem inProperty_of_lt {table : List Unicode.Property} {name : String} {first : Nat × Nat}
    (h : (inProperty table name).head? = some first) (hn : n < first.1) :
    Unicode.inRanges (inProperty table name) n = false := by
  unfold inProperty at h ⊢
  cases hfind : table.find? (·.names.contains name) with
  | none => rfl
  | some p =>
    rw [hfind] at h
    exact p.inRanges_of_lt h hn

theorem isGroupNamePart_parenthesis (first : Bool) : isGroupNamePart first ')' = false := by
  have halphabetic : alphabetic.head? = some (65, 90) := by decide +kernel
  have hnumeric : numeric.head? = some (48, 57) := by decide +kernel
  have hletter : Unicode.inRanges alphabetic ')'.toNat = false :=
    inProperty_of_lt halphabetic (by decide)
  have hdigit : Unicode.inRanges numeric ')'.toNat = false := inProperty_of_lt hnumeric (by decide)
  simp only [isGroupNamePart, hletter, hdigit]
  cases first <;> rfl

theorem groupNameChars_of_end (first : Bool) (h : c.rest = []) :
    ∃ e, (groupNameChars (n + 1) first).run c.embedded = .error e := by
  have hgt : ¬ ')' = '>' := by decide
  unfold groupNameChars
  simp only [run_next_bind, head?_embedded_of_end h, if_neg hgt, isGroupNamePart_parenthesis,
    Bool.not_false, if_true]
  exact ⟨_, rfl⟩

/-- Without the closing angle the name is read up to the end, and the end is refused. -/
theorem follows_groupNameChars {first : Bool} (hc : c.Ready K) (hn : c.rest.length < n)
    (hm : c.rest.length < m) :
    Follows K True u 0 c ((groupNameChars n first).run c)
      ((groupNameChars m first).run c.embedded) := by
  induction n generalizing m c first with
  | zero => omega
  | succ n ih =>
    obtain ⟨m, rfl⟩ : ∃ i, m = i + 1 := ⟨m - 1, by omega⟩
    cases hr : c.rest with
    | nil =>
      obtain ⟨e, he⟩ := groupNameChars_of_end first hr (n := m)
      rw [he]
      refine .lost lost_error fun _ _ h _ => ?_
      simp only [groupNameChars, run_next_bind, hr] at h
      cases h
      exact ⟨trivial, hr⟩
    | cons d r =>
      have hne : c.rest ≠ [] := by simp [hr]
      unfold groupNameChars
      simp only [run_next_bind, hr, head?_embedded hr, List.head?_cons, run_ite]
      split
      · exact .same (.refl c) fun _ => hne
      · split
        · exact .refused
        · refine (Follows.bump hc hne fun h => ?_).least
          have hs := h.shorter
          exact (ih (hc.reaches h) (by omega) (by omega)).map fun _ => rfl

theorem follows_nameGroup (span : Span) (name : List Char) :
    Follows K False u 0 c ((nameGroup span name).run c)
      ((nameGroup (moved span) name).run c.embedded) := by
  unfold nameGroup
  cases name with
  | nil => exact .refused
  | cons d name =>
    have hlookup : c.embedded.groupNames.lookup (String.ofList (d :: name)) =
        moved (c.groupNames.lookup (String.ofList (d :: name))) :=
      lookup_moved c.groupNames _
    simp only [List.isEmpty_cons, Bool.false_eq_true, if_false, run_see_bind, hlookup]
    cases c.groupNames.lookup (String.ofList (d :: name)) with
    | some earlier => exact .refused
    | none =>
      exact .same ⟨⟨List.suffix_refl _, Nat.le_refl _, Nat.le_refl _⟩, Quiet.ignoreSpace⟩ False.elim

theorem follows_groupName (hc : c.Ready K) :
    Follows K False u 0 c (groupName.run c) (groupName.run c.embedded) := by
  unfold groupName
  simp only [run_atEnd_bind, List.isEmpty_eq_false_iff.mpr c.rest_embedded_ne_nil,
    Bool.false_eq_true, if_false, run_place_bind, run_fuelLeft_bind]
  cases hr : c.rest with
  | nil =>
    obtain ⟨e, he⟩ := groupNameChars_of_end true hr (n := c.embedded.rest.length)
    rw [run_bind_error he]
    exact .refused
  | cons d r =>
    have hne : c.rest ≠ [] := by simp [hr]
    simp only [List.isEmpty_cons, Bool.false_eq_true, if_false, run_fuelLeft_bind, run_place_bind]
    refine (follows_groupNameChars hc (Nat.lt_succ_self _) c.length_lt_fuel).bind_refusing
      ?_ fun name c' h hne' => ?_
    · intro name c' hend
      simp only [run_spanFrom_bind, run_atEnd_bind, hend, List.isEmpty_nil, if_true]
      exact ⟨_, rfl⟩
    · simp only [run_spanFrom_bind, run_atEnd_bind, List.isEmpty_eq_false_iff.mpr hne',
        List.isEmpty_eq_false_iff.mpr c'.rest_embedded_ne_nil, Bool.false_eq_true, if_false,
        moved_eq name]
      refine (Follows.bump (hc.reaches h) hne' fun _ => ?_).least
      exact follows_nameGroup ⟨c.place, c'.place⟩ name

theorem follows_isLookAround (hc : c.Ready K) :
    Follows K False u 0 c (isLookAround.run c) (isLookAround.run c.embedded) := by
  unfold isLookAround
  refine (follows_bumpIf (by decide) hc).bind fun b c₁ h₁ => ?_
  replace hc := hc.reaches h₁
  cases b with
  | true => exact .here true
  | false =>
    refine (follows_bumpIf (by decide) hc).bind fun b c₂ h₂ => ?_
    replace hc := hc.reaches h₂
    cases b with
    | true => exact .here true
    | false =>
      refine (follows_bumpIf (by decide) hc).bind fun b c₃ h₃ => ?_
      cases b with
      | true => exact .here true
      | false => exact follows_bumpIf (by decide) (hc.reaches h₃)

/-- Flags that end behind the pattern end with its closing parenthesis. -/
theorem lost_bump_of_closing {α : Type} {f : Bool → Parse α} (h : c.rest <:+ closing) :
    Lost ['$'] ((bump >>= f).run c) := by
  rw [run_bump_bind]
  refine Parse.lost _ ?_
  rw [rest_bump]
  rcases suffix_closing h with hr | hr | hr <;> rw [hr]
  · exact List.suffix_refl _
  · exact List.nil_suffix
  · exact List.nil_suffix

theorem follows_flagGroup {opening : Span} {inner : Place} (hc : c.Ready K) :
    Follows K False ['$'] 0 c ((flagGroup opening inner).run c)
      ((flagGroup (moved opening) (moved inner)).run c.embedded) := by
  unfold flagGroup
  simp only [run_atEnd_bind, List.isEmpty_eq_false_iff.mpr c.rest_embedded_ne_nil,
    Bool.false_eq_true, if_false, run_fuelLeft_bind]
  cases hr : c.rest with
  | nil =>
    refine .of_error ?_
    refine (lost_of_embedded_end _ hr).bind_into fun items c' h => ?_
    rw [run_next_bind]
    exact lost_bump_of_closing h
  | cons d r =>
    simp only [List.isEmpty_cons, Bool.false_eq_true, if_false, run_fuelLeft_bind]
    refine (follows_flagItems hc (Nat.lt_succ_self _) c.length_lt_fuel).bind_of
      (fun items c' he h _ => ?_) False.elim fun items c' h => ?_
    · have hne := flagItems_more (Nat.lt_succ_self _) he
      obtain ⟨e, s, hr'⟩ := List.exists_cons_of_ne_nil hne
      simp only [run_next_bind, head?_embedded hr', hr', List.head?_cons]
      refine (Follows.bump (hc.reaches h) hne fun _ => ?_).least
      simp only [moved_eq items, run_ite]
      split
      · split
        · exact .refused
        · exact .here (GroupStart.flags (.flags ⟨opening.start, c'.bump.place⟩ items) items)
      · exact .here (GroupStart.group opening items)
    · rw [run_next_bind]
      exact lost_bump_of_closing h

theorem follows_groupStart (hc : c.Ready K) (hne : c.rest ≠ []) :
    Follows K False ['$'] 1 c (groupStart.run c) (groupStart.run c.embedded) := by
  unfold groupStart
  simp only [run_charSpan_bind, charSpan_embedded hc hne]
  refine Follows.bumpAndSkip hc hne fun h => ?_
  replace hc := hc.reaches h
  refine (follows_isLookAround hc).bind fun b c₁ h₁ => ?_
  replace hc := hc.reaches h₁
  cases b with
  | true => exact .refused
  | false =>
    simp only [Bool.false_eq_true, if_false, run_place_bind]
    refine (follows_bumpIf (by decide) hc).bind fun b c₂ h₂ => ?_
    replace hc := hc.reaches h₂
    cases b with
    | true => exact (follows_groupName hc).bind fun _ _ _ => .here (GroupStart.group c.charSpan [])
    | false =>
      refine (follows_bumpIf (by decide) hc).bind fun b c₃ h₃ => ?_
      replace hc := hc.reaches h₃
      cases b with
      | true =>
        exact (follows_groupName hc).bind fun _ _ _ => .here (GroupStart.group c.charSpan [])
      | false =>
        refine (follows_bumpIf (by decide) hc).bind fun b c₄ h₄ => ?_
        cases b with
        | true => exact follows_flagGroup (hc.reaches h₄)
        | false => exact .here (GroupStart.group c.charSpan [])

theorem flagState_eq_none {flag : Flag} {items : List FlagItem} (h : .flag flag ∉ items) :
    flagState flag items = none := by
  have hbefore : ¬ (items.takeWhile (· != .minus)).contains (.flag flag) = true := fun hc =>
    h ((List.takeWhile_sublist _).subset (List.contains_iff_mem.mp hc))
  have hbehind : ¬ (items.dropWhile (· != .minus)).contains (.flag flag) = true := fun hc =>
    h ((List.dropWhile_sublist _).subset (List.contains_iff_mem.mp hc))
  simp only [flagState, if_neg hbefore, if_neg hbehind]

theorem eq_of_flagItem? {d : Char} (h : flagItem? d = some (.flag .ignoreSpace)) : d = 'x' := by
  unfold flagItem? at h
  split at h
  · cases h
  · obtain ⟨flag, hflag, heq⟩ := Option.map_eq_some_iff.mp h
    cases heq
    unfold flag? at hflag
    split at hflag <;> first | rfl | cases hflag

theorem mem_of_flagItems {read : List (FlagItem × Span)} {items : List FlagItem} {c' : Cursor}
    (h : (flagItems n read).run c = .ok (items, c')) (hmem : .flag .ignoreSpace ∈ items) :
    'x' ∈ c.rest ∨ .flag .ignoreSpace ∈ read.map Prod.fst := by
  induction n generalizing c read with
  | zero =>
    cases h
    cases hmem
  | succ n ih =>
    obtain ⟨d, r, hr, ⟨rfl, rfl⟩ | ⟨item, span, hitem, hbehind⟩⟩ := cases_of_flagItems h
    · rw [List.map_reverse, List.mem_reverse] at hmem
      exact .inr hmem
    · rcases ih hbehind with hx | hread
      · rw [rest_bump] at hx
        exact .inl (List.mem_of_mem_tail hx)
      · rcases List.mem_cons.mp hread with heq | hread
        · rw [show item = .flag .ignoreSpace from heq.symm] at hitem
          exact .inl (hr ▸ eq_of_flagItem? hitem ▸ List.mem_cons_self)
        · exact .inr hread

def GroupStart.items : GroupStart → List FlagItem
  | .flags _ items => items
  | .group _ items => items

theorem mem_of_flagGroup {opening : Span} {inner : Place} {start : GroupStart} {c' : Cursor}
    (h : (flagGroup opening inner).run c = .ok (start, c'))
    (hmem : .flag .ignoreSpace ∈ start.items) : 'x' ∈ c.rest := by
  unfold flagGroup at h
  simp only [run_atEnd_bind, run_ite] at h
  split at h
  · cases h
  · rw [run_fuelLeft_bind, run_bind] at h
    cases hitems : (flagItems (c.rest.length + 1) []).run c with
    | error e => simp [hitems] at h
    | ok p =>
      have hstart : start.items = p.1 := by
        simp only [hitems, run_next_bind, run_bump_bind, run_ite] at h
        split at h
        · split at h
          · cases h
          · cases h
            rfl
        · cases h
          rfl
      rw [hstart] at hmem
      rcases mem_of_flagItems hitems hmem with hx | hread
      · exact hx
      · cases hread

theorem no_flags_of_groupName {span : Span} {start : GroupStart} {c' : Cursor}
    (h : (groupName >>= fun _ => pure (GroupStart.group span [])).run c = .ok (start, c')) :
    start.items = [] := by
  rw [run_bind] at h
  cases hname : groupName.run c with
  | error e => simp [hname] at h
  | ok p =>
    rw [hname] at h
    cases h
    rfl

/-- The flag is set where it is written. -/
theorem mem_of_groupStart {start : GroupStart} {c' : Cursor}
    (h : groupStart.run c = .ok (start, c')) (hmem : .flag .ignoreSpace ∈ start.items) :
    'x' ∈ c.rest := by
  unfold groupStart at h
  rw [run_charSpan_bind, run_bumpAndSkip_bind, run_bind] at h
  cases hlook : isLookAround.run c.bump.skipSpace with
  | error e => simp [hlook] at h
  | ok p =>
    have hrest : p.2.rest <:+ c.rest :=
      ((isLookAround.forward hlook).trans c.bump.skipSpace_suffix).trans c.bump_suffix
    have hnone (hitems : start.items = []) : 'x' ∈ c.rest := by
      rw [hitems] at hmem
      cases hmem
    simp only [hlook, run_ite, run_place_bind, run_bumpIf_bind, if_true, Bool.false_eq_true,
      if_false] at h
    split at h
    · cases h
    · split at h
      · exact hnone (no_flags_of_groupName h)
      · split at h
        · exact hnone (no_flags_of_groupName h)
        · split at h
          · exact hrest.subset ((bumps_suffix _ _).subset (mem_of_flagGroup h hmem))
          · cases h
            exact hnone rfl

theorem repeatable?_moved (parts : List Ast) :
    repeatable? (moved parts) = moved (repeatable? parts) := by
  cases parts with
  | nil => rfl
  | cons part parts => cases part <;> rfl

/-- The parts that a repetition makes of those before it. -/
theorem run_repeated_bind {α : Type} {parts : List Ast} (f : Ast × List Ast → Parse α) :
    (repeated parts >>= f).run c =
      match repeatable? parts with
      | some p => (f p).run c
      | none => .error ⟨.repetitionMissing, .at c.place, none⟩ := by
  unfold repeated
  cases repeatable? parts <;> rfl

theorem follows_skipLazyMark (hc : c.Ready K) :
    Follows K False u 0 c ((skipLazyMark !c.rest.isEmpty).run c)
      ((skipLazyMark true).run c.embedded) := by
  unfold skipLazyMark
  simp only [run_next_bind]
  cases hr : c.rest with
  | nil =>
    simp only [head?_embedded_of_end hr]
    exact .here ()
  | cons d r =>
    have hne : c.rest ≠ [] := by simp [hr]
    simp only [head?_embedded hr, List.head?_cons, List.isEmpty_cons, Bool.not_false,
      Bool.true_and, run_ite]
    split
    · exact (Follows.bump hc hne fun _ => .here ()).least
    · exact .here ()

theorem follows_signRepetition {parts : List Ast} {min : Nat} {max? : Option Nat}
    (hc : c.Ready K) (hne : c.rest ≠ []) :
    Follows K False u 1 c ((signRepetition parts min max?).run c)
      ((signRepetition (moved parts) min max?).run c.embedded) := by
  unfold signRepetition
  simp only [run_repeated_bind, repeatable?_moved]
  cases repeatable? parts with
  | none => exact .refused
  | some p =>
    refine Follows.bump hc hne fun h => ?_
    refine (follows_skipLazyMark (hc.reaches h)).bind fun _ c' _ => ?_
    have hspan : (moved p.1).span = moved p.1.span := p.1.span_moved
    simp only [run_place_bind]
    change Follows K False u 0 c' _
      (.ok (.repetition ⟨(moved p.1).span.start, moved c'.place⟩ min max? (moved p.1) ::
        moved p.2, _))
    rw [hspan]
    exact .here (Ast.repetition ⟨p.1.span.start, c'.place⟩ min max? p.1 :: p.2)

theorem follows_orRefuse {α : Type} [Placed α] (x : Except SyntaxError α) :
    Follows K False u 0 c ((orRefuse x).run c) ((orRefuse (moved x)).run c.embedded) := by
  cases x with
  | ok a => exact .here a
  | error e => exact .refused

theorem follows_countBounds (hc : c.Ready K) :
    Follows K False closing 0 c ((countBounds start).run c)
      ((countBounds (moved start)).run c.embedded) := by
  unfold countBounds
  refine (follows_decimal hc).bind fun low c' h => ?_
  replace hc := hc.reaches h
  cases hr : c'.rest with
  | nil =>
    simp only [run_atEnd_bind, hr, List.isEmpty_nil, if_true]
    exact .of_error (lost_of_embedded_end _ hr)
  | cons d r =>
    have hne : c'.rest ≠ [] := by simp [hr]
    simp only [run_atEnd_bind, hr, List.isEmpty_cons,
      List.isEmpty_eq_false_iff.mpr c'.rest_embedded_ne_nil, Bool.false_eq_true, if_false,
      run_next_bind, head?_embedded hr, List.head?_cons, run_ite]
    split
    · refine (Follows.bumpAndSkip_or hc hne (fun _ => ⟨_, rfl⟩) (lost_of_embedded_end _)
        fun h' hne' => ?_).least
      obtain ⟨e, s, hr'⟩ := List.exists_cons_of_ne_nil hne'
      simp only [run_next_bind, head?_embedded hr', hr', List.head?_cons]
      refine (follows_orRefuse low).bind fun low c'' h'' => ?_
      simp only [run_ite]
      split
      · exact .here (low, none)
      · refine (follows_decimal ((hc.reaches h').reaches h'')).bind fun high _ _ => ?_
        exact (follows_orRefuse high).bind fun high _ _ => .here (low, some high)
    · exact (follows_orRefuse low).bind fun low _ _ => .here (low, some low)

/-- Behind the pattern no brace is closed. -/
theorem countEnd_closing {part : Ast} {parts : List Ast} {least : Nat} {most? : Option Nat}
    (h : c.rest <:+ closing) :
    ∃ e, (countEnd start part parts least most?).run c = .error e := by
  unfold countEnd
  rw [run_next_bind]
  rcases suffix_closing h with hr | hr | hr <;> rw [hr] <;> exact ⟨_, rfl⟩

theorem follows_countEnd {part : Ast} {parts : List Ast} {least : Nat} {most? : Option Nat}
    (hc : c.Ready K) :
    Follows K False u 0 c ((countEnd start part parts least most?).run c)
      ((countEnd (moved start) (moved part) (moved parts) least most?).run c.embedded) := by
  unfold countEnd
  simp only [run_next_bind]
  cases hr : c.rest with
  | nil =>
    rw [head?_embedded_of_end hr]
    exact .refused
  | cons d r =>
    have hne : c.rest ≠ [] := by simp [hr]
    simp only [head?_embedded hr, List.head?_cons]
    by_cases hd : d = '\x7d'
    · simp only [hd, bne_self_eq_false, Bool.false_eq_true, if_false]
      refine (Follows.bumpAndSkip hc hne fun h => ?_).least
      refine (follows_skipLazyMark (hc.reaches h)).bind fun _ c' _ => ?_
      simp only [run_ite, run_place_bind, Ast.span_moved]
      split
      · exact .refused
      · exact .here (Ast.repetition ⟨part.span.start, c'.place⟩ least most? part :: parts)
    · have hd' : (some d != some '\x7d') = true := by simpa using hd
      simp only [hd', if_true]
      exact .refused

theorem follows_countRepetition (parts : List Ast) (hc : c.Ready K) (hne : c.rest ≠ []) :
    Follows K False u 1 c ((countRepetition parts).run c)
      ((countRepetition (moved parts)).run c.embedded) := by
  have hlost {start : Place} {part : Ast} {parts : List Ast} (bounds : Nat × Option Nat)
      (c' : Cursor) (h : c'.rest <:+ closing) :
      Lost u ((countEnd start part parts bounds.1 bounds.2).run c') := by
    obtain ⟨e, he⟩ := countEnd_closing h
    exact he ▸ lost_error
  unfold countRepetition
  simp only [run_place_bind, run_repeated_bind, repeatable?_moved]
  cases repeatable? parts with
  | none => exact .refused
  | some p =>
    refine Follows.bumpAndSkip_or hc hne (fun _ => ⟨_, rfl⟩)
      (fun hend => (lost_of_embedded_end _ hend).bind_into hlost) fun h _ => ?_
    replace hc := hc.reaches h
    refine (follows_countBounds hc).bind_into hlost fun bounds c' h' => ?_
    rw [moved_eq bounds]
    exact follows_countEnd (hc.reaches h')

/-- A brace that is left behind a word boundary is not closed. -/
theorem lost_countRepetition_of_stray {parts : List Ast} (hc : c.Ready K) (hs : c.Stray) :
    Lost [] ((countRepetition (moved parts)).run c.embedded) := by
  have hrun : ∃ e, (countRepetition parts).run c = .error e := by
    unfold countRepetition
    simp only [run_place_bind, run_repeated_bind]
    cases repeatable? parts with
    | none => exact ⟨_, rfl⟩
    | some p =>
      simp only [run_bumpAndSkip_bind, hs.behind, List.isEmpty_nil]
      exact ⟨_, rfl⟩
  obtain ⟨e, he⟩ := hrun
  have h := follows_countRepetition parts hc hs.ne_nil (u := [])
  rw [he] at h
  generalize (countRepetition (moved parts)).run c.embedded = r at h
  cases h with
  | lost h₂ _ => exact h₂

end AppDef.Pattern
