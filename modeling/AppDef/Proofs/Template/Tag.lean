import AppDef.Proofs.Template.Placeholder

namespace AppDef.Template

open Placeholder (isStart isPart)

variable {c : Char} {s rest : List Char} {p : Placeholder}

/-- No parameter begins with the character. -/
def Halts (c : Char) : Prop :=
  c = '\x7d' ∨ IsFeed c

theorem path_of_halts (h : Halts c) (s : List Char) : path (c :: s) = none := by
  rcases h with rfl | rfl | rfl <;> rfl

theorem subexpression_of_ne (h : c ≠ '(') (fuel : Nat) (s : List Char) :
    subexpression fuel (c :: s) = none := by
  cases fuel with
  | zero => rfl
  | succ fuel => simp [subexpression, after?, Ne.symm h]

theorem param_of_halts (h : Halts c) (fuel : Nat) (s : List Char) : param fuel (c :: s) = none := by
  cases fuel with
  | zero => rfl
  | succ fuel =>
    have hpath := path_of_halts h s
    rcases h with rfl | rfl | rfl <;>
      simp [param, isKeyword, literalEnd?, numberEnd?, ofWord, after?, Text.isDigit, hpath,
        subexpression_of_ne]

theorem parameters_of_halts (h : Halts c) {t : List Char} (ht : skipSpace t = c :: s) (fuel : Nat) :
    parameters fuel t = ([], t) := by
  cases fuel with
  | zero => rfl
  | succ fuel =>
    have hoption : option? fuel (c :: s) = none := by
      cases fuel with
      | zero => rfl
      | succ fuel => rcases h with rfl | rfl | rfl <;> rfl
    simp [parameters, ht, hoption, param_of_halts h]

/-- The blanks of the template language are skipped, up to the first blank that is none of them. -/
theorem skipSpace_append (hs : ∀ c ∈ s, isSpace c = true ∨ IsFeed c) (t : List Char) :
    skipSpace (s ++ t) = skipSpace t ∨ ∃ c r, IsFeed c ∧ skipSpace (s ++ t) = c :: r := by
  induction s with
  | nil => exact .inl rfl
  | cons c s ih =>
    obtain ⟨hc, hs⟩ := List.forall_mem_cons.mp hs
    rcases hc with hc | hc
    · have hskip : skipSpace (c :: s ++ t) = skipSpace (s ++ t) := by simp [skipSpace, hc]
      rw [hskip]
      exact ih hs
    · refine .inr ⟨c, s ++ t, hc, ?_⟩
      rcases hc with rfl | rfl <;> rfl

/-- What follows a word within a run is in the run or right behind it. -/
theorem mem_or_eq_of_append {word t : List Char} {d : Char} (hd : d ∉ word)
    (h : s ++ d :: t = word ++ c :: rest) : c ∈ s ∨ c = d := by
  induction word generalizing s with
  | nil =>
    cases s with
    | nil => exact .inr (List.cons.inj h).1.symm
    | cons a s => exact .inl ((List.cons.inj h).1 ▸ List.mem_cons_self)
  | cons a word ih =>
    obtain ⟨hne, hd⟩ := not_or.mp (mt List.mem_cons.mpr hd)
    cases s with
    | nil => exact absurd (List.cons.inj h).1 hne
    | cons b s =>
      rcases ih hd (List.cons.inj h).2 with hmem | heq
      · exact .inl (List.mem_cons_of_mem _ hmem)
      · exact .inr heq

namespace Placeholder

variable (hn : p.IsNarrow)
include hn

theorem blanks_of_isNarrow :
    ∀ c ∈ p.before.toList ++ p.after.toList, isSpace c = true ∨ IsFeed c :=
  fun c hc => isSpace_or_isFeed (p.isBlank_of_mem c hc) (hn c hc)

/-- Behind the name stand the closing braces, or the tag has no end. -/
theorem skipSpace_tail (rest : List Char) :
    skipSpace (p.tail rest) = '\x7d' :: '\x7d' :: rest ∨
      ∃ c r, IsFeed c ∧ skipSpace (p.tail rest) = c :: r :=
  skipSpace_append (fun c hc => p.blanks_of_isNarrow hn c (List.mem_append_right _ hc)) _

theorem parameters_tail (fuel : Nat) (rest : List Char) :
    parameters fuel (p.tail rest) = ([], p.tail rest) := by
  rcases p.skipSpace_tail hn rest with h | ⟨c, r, hc, h⟩
  · exact parameters_of_halts (.inl rfl) h fuel
  · exact parameters_of_halts (.inr hc) h fuel

theorem closing_tail (rest : List Char) : closing (braces 2) (p.tail rest) = some (false, rest) ∨
    closing (braces 2) (p.tail rest) = none := by
  rcases p.skipSpace_tail hn rest with h | ⟨c, r, rfl | rfl, h⟩
  · exact .inl (by simp [closing, trimMark, h, braces, after?])
  · exact .inr (by simp [closing, trimMark, h, braces, after?])
  · exact .inr (by simp [closing, trimMark, h, braces, after?])

/-- Behind the name stands neither a part of a name nor a separator. -/
theorem head_tail (rest : List Char) :
    ∃ c s, p.tail rest = c :: s ∧ isNamePart c = false ∧ isSeparator c = false := by
  obtain ⟨c, s, htail, hc⟩ := p.tail_eq rest
  refine ⟨c, s, htail, ?_⟩
  rcases hc with rfl | hc
  · exact ⟨rfl, rfl⟩
  · rcases p.blanks_of_isNarrow hn c (List.mem_append_right _ hc) with h | rfl | rfl
    · simp only [isSpace, Bool.or_eq_true, beq_iff_eq] at h
      rcases h with ((rfl | rfl) | rfl) | rfl <;> exact ⟨rfl, rfl⟩
    · exact ⟨rfl, rfl⟩
    · exact ⟨rfl, rfl⟩

theorem identifier_name (rest : List Char) :
    identifier (p.name.toList ++ p.tail rest) = some (p.name, p.tail rest) := by
  obtain ⟨c, s, hname, -⟩ := p.name_eq
  obtain ⟨d, t, htail, hd, -⟩ := p.head_tail hn rest
  have hend : ∀ c ∈ (p.tail rest).head?, isNamePart c = false := by
    rw [htail]
    rintro _ ⟨⟩
    exact hd
  have hspan := span_eq (fun c hc => isNamePart_of_isPart (p.isPart_of_mem c hc)) hend
  unfold identifier
  rw [hspan.1, hspan.2, hname]
  simp only [← hname, String.ofList_toList]

/-- The name is no step that stays where it is. -/
theorem skipCurrent_name (fuel : Nat) (rest : List Char) :
    skipCurrent fuel (p.name.toList ++ p.tail rest) = p.name.toList ++ p.tail rest := by
  obtain ⟨c, s, hname, hstart⟩ := p.name_eq
  obtain ⟨d, t, htail, hpart, hsep⟩ := p.head_tail hn rest
  cases fuel with
  | zero => rfl
  | succ fuel =>
    unfold skipCurrent
    split
    · rename_i r h
      rw [hname] at h
      cases (List.cons.inj h).1
      cases hstart
    · -- `this` is passed over only in front of a separator, and none stands in or behind a name.
      rename_i c' r h
      rw [htail] at h
      have hd : d ∉ ['t', 'h', 'i', 's'] := by
        intro hd
        simp only [List.mem_cons, List.not_mem_nil, or_false] at hd
        rcases hd with rfl | rfl | rfl | rfl <;> cases hpart
      have hc : isSeparator c' = false := by
        rcases mem_or_eq_of_append hd h with hmem | rfl
        · exact not_isSeparator_of_isPart (p.isPart_of_mem c' hmem)
        · exact hsep
      rw [htail, h, hc]
      rfl
    · rfl

/-- The name is read as a path of one step, unless it stands for where the path starts. -/
theorem path_name (hthis : p.name ≠ "this") (rest : List Char) :
    path (p.name.toList ++ p.tail rest) = some (⟨p.name, [.named p.name]⟩, p.tail rest) := by
  obtain ⟨c, s, hname, hstart⟩ := p.name_eq
  obtain ⟨d, t, htail, -, hsep⟩ := p.head_tail hn rest
  have hne (x : Char) (hx : isStart x = false) : c ≠ x := ne_of_isStart hstart hx
  have hwhole : p.name.toList ++ p.tail rest = c :: (s ++ p.tail rest) := by rw [hname]; rfl
  have hups : stepsUp (c :: (s ++ p.tail rest)) = (0, c :: (s ++ p.tail rest)) := by
    simp [stepsUp, hne '.' rfl]
  have hitem : pathItem (c :: (s ++ p.tail rest)) = some (p.name, p.tail rest) := by
    rw [← p.identifier_name hn rest, hwhole]
    simp [pathItem, hne '[' rfl]
  have hitems : pathItems (p.tail rest).length (p.tail rest) = ([], p.tail rest) := by
    rw [htail]
    simp [pathItems, hsep]
  have htaken : (c :: (s ++ p.tail rest)).take
      ((c :: (s ++ p.tail rest)).length - (p.tail rest).length) = p.name.toList := by
    rw [← hwhole, List.length_append, Nat.add_sub_cancel, List.take_left]
  have hsegments : namedSegments [p.name] = [.named p.name] := by
    simp [namedSegments, hthis]
  unfold path
  rw [p.skipCurrent_name hn, hwhole]
  simp [hne '@' rfl, hups, hitem, hitems, htaken, hsegments, -List.length_cons,
    -List.length_append]

/-- The call that a placeholder stands for. -/
def call (p : Placeholder) : Call :=
  ⟨.path ⟨p.name, [.named p.name]⟩, [], []⟩

theorem valueCall_name (hthis : p.name ≠ "this") (rest : List Char) :
    valueCall (p.name.toList ++ p.tail rest) = some (p.call, p.tail rest) := by
  obtain ⟨c, s, hname, hstart⟩ := p.name_eq
  have hparen : c ≠ '(' := ne_of_isStart hstart rfl
  have hsub (fuel : Nat) : subexpression fuel (p.name.toList ++ p.tail rest) = none := by
    rw [hname]
    exact subexpression_of_ne hparen fuel _
  simp [valueCall, p.identifier_name hn, p.parameters_tail hn, hsub, p.path_name hn hthis, call]

end Placeholder

/-- The tag goes on with a block that was opened before. -/
def Tag.IsElse : Tag → Prop
  | .otherwise | .otherwiseIf _ _ => True
  | _ => False

theorem isElse_of_otherwiseTag {before : Bool} {m : Marked} {r : List Char}
    (h : otherwiseTag before s = some (m, r)) : m.tag.IsElse := by
  unfold otherwiseTag at h
  obtain ⟨t, -, h⟩ := Option.bind_eq_some_iff.mp h
  split at h
  · cases h
    trivial
  · obtain ⟨_, -, h⟩ := Option.map_eq_some_iff.mp h
    cases h
    trivial

theorem valueCall_of_isFeed (h : IsFeed c) (s : List Char) : valueCall (c :: s) = none := by
  have hpath := path_of_halts (.inr h) s
  have hidentifier : identifier (c :: s) = none := by rcases h with rfl | rfl <;> rfl
  have hparen : c ≠ '(' := by rcases h with rfl | rfl <;> decide
  simp [valueCall, hpath, hidentifier, subexpression_of_ne hparen]

theorem tagInside_of_isFeed (h : IsFeed c) {t : List Char} (ht : skipSpace t = c :: s) :
    tagInside t = none := by
  have hcall := valueCall_of_isFeed h s
  rcases h with rfl | rfl <;>
    simp [tagInside, trimMark, ht, otherwiseTag, otherwiseWord?, after?, marked, closed, hcall]

namespace Placeholder

variable (hn : p.IsNarrow)
include hn

omit hn in
/-- A tag that starts with a name is a branch of a block or else a value. -/
theorem tagInside_eq (p : Placeholder) {t : List Char}
    (ht : skipSpace t = p.name.toList ++ p.tail rest) :
    tagInside t = (otherwiseTag false (p.name.toList ++ p.tail rest)).orElse
      fun _ => marked false .value valueCall (p.name.toList ++ p.tail rest) := by
  obtain ⟨c, s, hname, hstart⟩ := p.name_eq
  have hne (x : Char) (hx : isStart x = false) : c ≠ x := ne_of_isStart hstart hx
  rw [hname] at ht ⊢
  simp [tagInside, trimMark, ht, hne '~' rfl, hne '#' rfl, hne '/' rfl, hne '*' rfl, hne '>' rfl,
    hne '&' rfl, hne '\x7b' rfl]

/-- Inside its braces a placeholder is a value, if it can be read and is no branch of a block. -/
theorem tagInside_name (hthis : p.name ≠ "this") {t : List Char}
    (ht : skipSpace t = p.name.toList ++ p.tail rest) {m : Marked} {r : List Char}
    (h : tagInside t = some (m, r)) :
    m.tag.IsElse ∨ m = ⟨.value p.call, false, false⟩ ∧ r = rest := by
  rw [p.tagInside_eq ht] at h
  cases hw : otherwiseTag false (p.name.toList ++ p.tail rest) with
  | some x =>
    rw [hw] at h
    cases h
    exact .inl (isElse_of_otherwiseTag hw)
  | none =>
    rw [hw] at h
    rcases p.closing_tail hn rest with hc | hc
    · simp [marked, closed, p.valueCall_name hn hthis, hc] at h
      exact .inr ⟨h.1.symm, h.2.symm⟩
    · simp [marked, closed, p.valueCall_name hn hthis, hc] at h

omit hn in
/-- No comment begins with a placeholder. -/
theorem tag_eq_tagInside (p : Placeholder) (rest : List Char) : tag (p.write rest) =
    tagInside (p.before.toList ++ (p.name.toList ++ p.tail rest)) := by
  unfold write tag
  split
  · rename_i s h
    exact absurd (List.cons.inj (List.cons.inj h).2).2 (p.inside_ne rest rfl rfl s)
  · rename_i h
    rw [(List.cons.inj (List.cons.inj h).2).2]
  · rename_i h
    exact absurd rfl (h _)

omit hn in
theorem not_opensRaw_write (p : Placeholder) (rest : List Char) :
    opensRaw (p.write rest) = false := by
  unfold write opensRaw
  split
  · rename_i s h
    exact absurd (List.cons.inj (List.cons.inj h).2).2 (p.inside_ne rest rfl rfl _)
  · rfl

omit hn in
theorem skipSpace_name (p : Placeholder) (rest : List Char) :
    skipSpace (p.name.toList ++ p.tail rest) = p.name.toList ++ p.tail rest := by
  obtain ⟨c, s, hname, hstart⟩ := p.name_eq
  have hspace : isSpace c = false := by
    simp [isSpace, ne_of_isStart hstart (d := ' ') rfl, ne_of_isStart hstart (d := '\t') rfl,
      ne_of_isStart hstart (d := '\n') rfl, ne_of_isStart hstart (d := '\r') rfl]
  rw [hname]
  simp [skipSpace, hspace]

/-- Whatever a placeholder is read as stands for its value, or for a branch of a block. -/
theorem tag_write (hthis : p.name ≠ "this") {m : Marked} {r : List Char}
    (h : tag (p.write rest) = some (m, r)) :
    m.tag.IsElse ∨ m = ⟨.value p.call, false, false⟩ ∧ r = rest := by
  rw [p.tag_eq_tagInside] at h
  have hblanks : ∀ c ∈ p.before.toList, isSpace c = true ∨ IsFeed c :=
    fun c hc => p.blanks_of_isNarrow hn c (List.mem_append_left _ hc)
  -- Either all blanks are passed over, or one of them stops the tag before its name.
  rcases skipSpace_append hblanks (p.name.toList ++ p.tail rest) with hs | ⟨c, s, hc, hs⟩
  · exact p.tagInside_name hn hthis (hs.trans (p.skipSpace_name rest)) h
  · rw [tagInside_of_isFeed hc hs] at h
    cases h

end Placeholder

end AppDef.Template
