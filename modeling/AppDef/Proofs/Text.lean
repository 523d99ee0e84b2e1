import AppDef.Text.Blank
import Mathlib.Data.List.DropRight

namespace AppDef.Text

variable {p : Char → Bool} {s t : List Char} {c : Char}

theorem dropWhile_append (hs : ∀ c ∈ s, p c = true) (ht : ∀ c ∈ t.head?, p c = false) :
    (s ++ t).dropWhile p = t := by
  rw [List.dropWhile_append_of_pos hs]
  cases t with
  | nil => rfl
  | cons c t => exact List.dropWhile_cons_of_neg (by simp [ht c rfl])

theorem dropEndWhile_append (hs : ∀ c ∈ s, p c = true) (ht : ∀ c ∈ t.getLast?, p c = false) :
    dropEndWhile p (t ++ s) = t := by
  have hdrop : (s.reverse ++ t.reverse).dropWhile p = t.reverse := by
    apply dropWhile_append
    · exact fun c hc => hs c (List.mem_reverse.mp hc)
    · rwa [List.head?_reverse]
  rw [dropEndWhile, List.reverse_append, hdrop, List.reverse_reverse]

/-- The text is not empty, and no blank stands at either end of it. -/
structure IsCut (s : List Char) : Prop where
  first : ∃ c, s.head? = some c ∧ isBlank c = false
  last : ∃ c, s.getLast? = some c ∧ isBlank c = false

theorem trimEnd_append (h : IsCut s) (ht : ∀ c ∈ t, isBlank c = true) : trimEnd (s ++ t) = s := by
  apply dropEndWhile_append ht
  obtain ⟨c, hc, hblank⟩ := h.last
  rw [hc]
  rintro _ ⟨⟩
  exact hblank

theorem trim_append {before after : List Char} (h : IsCut s)
    (hbefore : ∀ c ∈ before, isBlank c = true) (hafter : ∀ c ∈ after, isBlank c = true) :
    trim (before ++ (s ++ after)) = s := by
  obtain ⟨c, hc, hblank⟩ := h.first
  have hstart : trimStart (before ++ (s ++ after)) = s ++ after := by
    apply dropWhile_append hbefore
    rw [List.head?_append, hc]
    rintro _ ⟨⟩
    exact hblank
  rw [trim, hstart, trimEnd_append h hafter]

theorem trim_of_isCut (h : IsCut s) : trim s = s := by
  have htrim := trim_append h (List.forall_mem_nil _) (List.forall_mem_nil _)
  rwa [List.nil_append, List.append_nil] at htrim

theorem trim_of_noBlank (h : ∀ c ∈ s, isBlank c = false) : trim s = s := by
  cases hs : s with
  | nil => rfl
  | cons c t =>
    rw [← hs]
    refine trim_of_isCut ⟨⟨c, by rw [hs]; rfl, h c (by simp [hs])⟩, ?_⟩
    have hne : s ≠ [] := by simp [hs]
    exact ⟨s.getLast hne, List.getLast?_eq_some_getLast hne, h _ (List.getLast_mem hne)⟩

theorem mem_dropWhile (hc : p c = false) (h : c ∈ s) : c ∈ s.dropWhile p := by
  induction s with
  | nil => cases h
  | cons d s ih =>
    rw [List.dropWhile_cons]
    split
    · rename_i hd
      rcases List.mem_cons.mp h with rfl | h
      · rw [hc] at hd
        cases hd
      · exact ih h
    · exact h

/-- Nothing but blanks is cut off. -/
theorem mem_trim (hc : isBlank c = false) (h : c ∈ s) : c ∈ trim s := by
  have hstart : c ∈ trimStart s := mem_dropWhile hc h
  exact List.mem_reverse.mpr (mem_dropWhile hc (List.mem_reverse.mpr hstart))

/-- What is left is cut at both ends. -/
theorem isCut_trim (h : trim s ≠ []) : IsCut (trim s) := by
  constructor
  · obtain ⟨rest, hrest⟩ := List.rdropWhile_prefix isBlank (s.dropWhile isBlank)
    have hfirst := List.head?_dropWhile_not isBlank s
    cases ht : trim s with
    | nil => exact absurd ht h
    | cons c t =>
      change trim s ++ rest = s.dropWhile isBlank at hrest
      rw [← hrest, ht] at hfirst
      exact ⟨c, rfl, hfirst⟩
  · have hlast := List.rdropWhile_last_not isBlank (s.dropWhile isBlank) h
    exact ⟨_, List.getLast?_eq_some_getLast h, Bool.not_eq_true _ ▸ hlast⟩

theorem trim_trim (s : List Char) : trim (trim s) = trim s := by
  by_cases h : trim s = []
  · rw [h]
    rfl
  · exact trim_of_isCut (isCut_trim h)

theorem trim_ne_nil (hc : c ∈ s) (hblank : isBlank c = false) : trim s ≠ [] :=
  List.ne_nil_of_mem (mem_trim hblank hc)

theorem number_inj {i j : Nat} (h : (toString i).toList = (toString j).toList) : i = j := by
  have hdigits : Nat.toDigits 10 i = Nat.toDigits 10 j := by
    rw [← Nat.toList_repr, ← Nat.toList_repr]
    exact h
  rw [← @Nat.ofDigitChars_ten_toDigits i, hdigits, Nat.ofDigitChars_ten_toDigits]

/-- A number ends where a character stands that is no digit. -/
theorem numbered_inj {i j : Nat} (hc : c.isDigit = false)
    (h : (toString i).toList ++ c :: s = (toString j).toList ++ c :: t) : i = j ∧ s = t := by
  have hcut (k : Nat) (u : List Char) :
      ((toString k).toList ++ c :: u).takeWhile Char.isDigit = (toString k).toList := by
    have hdigits : ∀ d ∈ (toString k).toList, d.isDigit = true := by
      change ∀ d ∈ (Nat.repr k).toList, d.isDigit = true
      rw [Nat.toList_repr]
      exact fun d hd => Nat.isDigit_of_mem_toDigits (by decide) (by decide) hd
    rw [List.takeWhile_append_of_pos hdigits, List.takeWhile_cons_of_neg (by simp [hc]),
      List.append_nil]
  have hij : i = j := number_inj (by rw [← hcut i s, h, hcut])
  subst hij
  exact ⟨rfl, by simpa using h⟩

end AppDef.Text
