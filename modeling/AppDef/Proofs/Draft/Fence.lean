import AppDef.Draft.Basic
import AppDef.Proofs.Outcome
import AppDef.Proofs.Template.Placeholder
import AppDef.Proofs.Text

namespace AppDef.Draft

open AppDef.Text

variable {b tag s rest : List Char}

/-- The text goes from an opening to a closing brace. -/
structure IsBody (b : List Char) : Prop where
  opens : b.head? = some '\x7b'
  closes : b.getLast? = some '\x7d'

theorem IsBody.isCut (h : IsBody b) : IsCut b :=
  ⟨⟨_, h.opens, rfl⟩, ⟨_, h.closes, rfl⟩⟩

theorem fence_eq : fence = List.replicate 3 (Char.ofNat 96) := by
  decide

theorem isPrefixOf?_fence (rest : List Char) : fence.isPrefixOf? (fence ++ rest) = some rest := by
  simp [fence_eq, List.replicate, List.isPrefixOf?]

theorem isPrefixOf?_body (h : IsBody b) : fence.isPrefixOf? b = none := by
  cases b with
  | nil => cases h.opens
  | cons c b =>
    cases h.opens
    rfl

theorem dropClosing_fence (s : List Char) : dropClosing (s ++ fence) = s := by
  simp [dropClosing, List.isSuffixOf?, fence_eq, List.replicate, List.isPrefixOf?]

/-- A text that ends with a fence has no blank at its end. -/
theorem trimEnd_fence (s : List Char) : trimEnd (s ++ fence) = s ++ fence := by
  have hlast : ∀ c ∈ (s ++ fence).getLast?, isBlank c = false := by
    rw [List.getLast?_append, fence_eq]
    rintro _ ⟨⟩
    decide
  have htrim := dropEndWhile_append (List.forall_mem_nil _) hlast
  rwa [List.append_nil] at htrim

theorem isCut_fenced (s : List Char) : IsCut (fence ++ (s ++ fence)) := by
  refine ⟨⟨Char.ofNat 96, ?_, by decide⟩, ⟨Char.ofNat 96, ?_, by decide⟩⟩
  · rw [fence_eq]
    rfl
  · rw [← List.append_assoc, List.getLast?_append, fence_eq]
    rfl

/-- The name of a language, which may be missing. -/
def IsTag (tag : List Char) : Prop :=
  ∀ c ∈ tag, isAlphanumeric c = true

theorem IsTag.noBlank (h : IsTag tag) : ∀ c ∈ tag, isBlank c = false := by
  intro c hc
  rw [← Bool.not_eq_true]
  intro hblank
  have hpart := Template.not_isPart_of_isBlank hblank
  rw [Template.Placeholder.isPart, h c hc] at hpart
  cases hpart

theorem IsTag.noLineEnd (h : IsTag tag) : '\n' ∉ tag := by
  intro hmem
  have := h _ hmem
  revert this
  decide

theorem decide_ne_of_not_mem {d : Char} (hs : d ∉ s) : ∀ c ∈ s, decide (c ≠ d) = true := by
  intro c hc
  apply decide_eq_true
  rintro rfl
  exact hs hc

theorem splitLine?_append (hs : '\n' ∉ s) (rest : List Char) :
    splitLine? (s ++ '\n' :: rest) = some (s, rest) := by
  have hspan := Template.span_eq (t := '\n' :: rest) (decide_ne_of_not_mem hs)
    (by rintro _ ⟨⟩; decide)
  rw [splitLine?, hspan.1, hspan.2]

theorem splitLine?_eq_none (hs : '\n' ∉ s) : splitLine? s = none := by
  have hline := dropWhile_append (t := []) (decide_ne_of_not_mem hs) (by simp)
  rw [List.append_nil] at hline
  rw [splitLine?, hline]

/-- A tag on a line of its own is dropped with its line. -/
theorem dropTag_line (h : IsTag tag) (rest : List Char) :
    dropTag (tag ++ '\n' :: rest) = rest := by
  have hall : (trim tag).all isAlphanumeric = true := by
    rw [trim_of_noBlank h.noBlank]
    exact List.all_eq_true.mpr h
  rw [dropTag, splitLine?_append h.noLineEnd]
  simp only [hall, if_true]

/-- On a single line a tag goes up to the brace. -/
theorem dropTag_single (h : IsTag tag) (hb : IsBody b) (hline : '\n' ∉ b) :
    dropTag (tag ++ (b ++ fence)) = b ++ fence := by
  have hnone : '\n' ∉ tag ++ (b ++ fence) := by
    rw [List.mem_append, List.mem_append, fence_eq]
    rintro (hmem | hmem | hmem)
    · exact h.noLineEnd hmem
    · exact hline hmem
    · revert hmem
      decide
  rw [dropTag, splitLine?_eq_none hnone]
  apply dropWhile_append h
  rw [List.head?_append, hb.opens]
  rintro _ ⟨⟩
  rfl

/-- A line with a brace is no tag. -/
theorem not_all_isAlphanumeric (h : '\x7b' ∈ s) : (trim s).all isAlphanumeric = false := by
  rw [← Bool.not_eq_true, List.all_eq_true]
  intro hall
  have hbrace : isAlphanumeric '\x7b' = true := hall _ (mem_trim (by decide) h)
  revert hbrace
  decide

/-- The first of several lines has the brace, and then all of it is kept. -/
theorem dropTag_several (h : IsTag tag) (hb : IsBody b) (hline : '\n' ∈ b) :
    dropTag (tag ++ (b ++ fence)) = tag ++ (b ++ fence) := by
  obtain ⟨first, others, rfl, hfirst⟩ := List.eq_append_cons_of_mem hline
  have hbrace : '\x7b' ∈ first := by
    have hopens := hb.opens
    cases first with
    | nil => cases hopens
    | cons c first =>
      cases hopens
      exact List.mem_cons_self
  have hend : '\n' ∉ tag ++ first := by
    intro hmem
    rcases List.mem_append.mp hmem with hmem | hmem
    · exact h.noLineEnd hmem
    · exact hfirst hmem
  have hsplit : splitLine? (tag ++ ((first ++ '\n' :: others) ++ fence)) =
      some (tag ++ first, others ++ fence) := by
    rw [← splitLine?_append hend (others ++ fence)]
    simp only [List.append_assoc, List.cons_append]
  rw [dropTag, hsplit]
  simp only [not_all_isAlphanumeric (List.mem_append_right tag hbrace)]
  rfl

theorem IsTag.isCut (h : IsTag tag) (hb : IsBody b) : IsCut (tag ++ b) := by
  refine ⟨?_, ⟨'\x7d', by rw [List.getLast?_append, hb.closes]; rfl, rfl⟩⟩
  cases tag with
  | nil => exact hb.isCut.first
  | cons c tag => exact ⟨c, rfl, h.noBlank c List.mem_cons_self⟩

variable {before after : List Char}

theorem unfenced_fenced (hbefore : ∀ c ∈ before, isBlank c = true)
    (hafter : ∀ c ∈ after, isBlank c = true) (s : List Char) :
    unfenced (before ++ ((fence ++ (s ++ fence)) ++ after)) =
      trim (dropClosing (trimEnd (dropTag (s ++ fence)))) := by
  unfold unfenced
  dsimp only
  rw [trim_append (isCut_fenced s) hbefore hafter, isPrefixOf?_fence]

theorem unfenced_bare (hb : IsBody b) (hbefore : ∀ c ∈ before, isBlank c = true)
    (hafter : ∀ c ∈ after, isBlank c = true) : unfenced (before ++ (b ++ after)) = b := by
  unfold unfenced
  dsimp only
  rw [trim_append hb.isCut hbefore hafter, isPrefixOf?_body hb]

theorem unfenced_lines (hb : IsBody b) (h : IsTag tag) (hbefore : ∀ c ∈ before, isBlank c = true)
    (hafter : ∀ c ∈ after, isBlank c = true) :
    unfenced (before ++ ((fence ++ ((tag ++ '\n' :: (b ++ ['\n'])) ++ fence)) ++ after)) = b := by
  have hassoc : (tag ++ '\n' :: (b ++ ['\n'])) ++ fence =
      tag ++ '\n' :: ((b ++ ['\n']) ++ fence) := List.append_assoc _ _ _
  have hend : ∀ c ∈ ['\n'], isBlank c = true := List.forall_mem_singleton.mpr rfl
  rw [unfenced_fenced hbefore hafter, hassoc, dropTag_line h, trimEnd_fence, dropClosing_fence]
  exact trim_append hb.isCut (List.forall_mem_nil _) hend

theorem unfenced_inline (hb : IsBody b) (h : IsTag tag) (hbefore : ∀ c ∈ before, isBlank c = true)
    (hafter : ∀ c ∈ after, isBlank c = true) :
    unfenced (before ++ ((fence ++ ((tag ++ b) ++ fence)) ++ after)) =
      if '\n' ∈ b then tag ++ b else b := by
  rw [unfenced_fenced hbefore hafter, List.append_assoc]
  split_ifs with hline
  · rw [dropTag_several h hb hline, ← List.append_assoc, trimEnd_fence, dropClosing_fence]
    exact trim_of_isCut (h.isCut hb)
  · rw [dropTag_single h hb hline, trimEnd_fence, dropClosing_fence, trim_of_isCut hb.isCut]

/-- What stands around a body: blanks, and the tag of a fence. -/
structure Wrapping where
  before : String
  tag : String
  after : String
  blank : (before.toList ++ after.toList).all isBlank = true
  isTag : tag.toList.all isAlphanumeric = true

namespace Wrapping

variable (w : Wrapping) {body : String}

/-- The body without a fence. -/
def bare (body : String) : String :=
  w.before ++ body ++ w.after

/-- The fence on lines of its own. -/
def lines (body : String) : String :=
  w.before ++ "```" ++ w.tag ++ "\n" ++ body ++ "\n" ++ "```" ++ w.after

/-- The fence on the lines of the body. -/
def inline (body : String) : String :=
  w.before ++ "```" ++ w.tag ++ body ++ "```" ++ w.after

theorem isBlank_before : ∀ c ∈ w.before.toList, isBlank c = true :=
  fun c hc => List.all_eq_true.mp w.blank c (List.mem_append_left _ hc)

theorem isBlank_after : ∀ c ∈ w.after.toList, isBlank c = true :=
  fun c hc => List.all_eq_true.mp w.blank c (List.mem_append_right _ hc)

theorem isTag_tag : IsTag w.tag.toList :=
  List.all_eq_true.mp w.isTag

variable (hb : IsBody body.toList)
include hb

theorem stripFence_bare : stripFence (w.bare body) = body := by
  have h := unfenced_bare hb w.isBlank_before w.isBlank_after
  simpa [stripFence, bare] using congrArg String.ofList h

theorem stripFence_lines : stripFence (w.lines body) = body := by
  have h := unfenced_lines hb w.isTag_tag w.isBlank_before w.isBlank_after
  simpa [stripFence, lines, fence] using congrArg String.ofList h

theorem stripFence_inline :
    stripFence (w.inline body) = if '\n' ∈ body.toList then w.tag ++ body else body := by
  have h := unfenced_inline hb w.isTag_tag w.isBlank_before w.isBlank_after
  have hstrip : stripFence (w.inline body) = String.ofList
      (if '\n' ∈ body.toList then w.tag.toList ++ body.toList else body.toList) := by
    rw [← h]
    simp [stripFence, inline, fence]
  rw [hstrip]
  split_ifs
  · rw [String.ofList_append, String.ofList_toList, String.ofList_toList]
  · rw [String.ofList_toList]

end Wrapping

theorem isSpace_of_isAlphanumeric {c : Char} (hc : isAlphanumeric c = true) :
    Json.isSpace c = false := by
  rw [← Bool.not_eq_true]
  intro hspace
  simp only [Json.isSpace, Bool.or_eq_true, beq_iff_eq] at hspace
  rcases hspace with ((rfl | rfl) | rfl) | rfl <;> cases hc

theorem asObject?_of_map {α : Type} {result : Except Json.Failure (α × List Char)} {v : Json}
    {r : List Char} (build : α → Json) (hbuild : ∀ a, (build a).asObject? = none)
    (h : (result.map fun x => (build x.1, x.2)) = .ok (v, r)) : v.asObject? = none := by
  cases result with
  | error e => cases h
  | ok x =>
    cases h
    exact hbuild x.1

/-- A text that starts with a letter or a digit is no JSON object. -/
theorem value_of_isAlphanumeric {c : Char} (hc : isAlphanumeric c = true) {fuel depth : Nat}
    {v : Json} {r : List Char} (h : Json.Read.value fuel depth (c :: s) = .ok (v, r)) :
    v.asObject? = none := by
  cases fuel with
  | zero => cases h
  | succ fuel =>
    have hspace : Json.skipSpace (c :: s) = c :: s := by
      simp [Json.skipSpace, isSpace_of_isAlphanumeric hc]
    unfold Json.Read.value at h
    rw [hspace] at h
    split at h
    · cases h
    · exact asObject?_of_map (fun _ => .null) (fun _ => rfl) h
    · exact asObject?_of_map (fun _ => .bool true) (fun _ => rfl) h
    · exact asObject?_of_map (fun _ => .bool false) (fun _ => rfl) h
    · exact asObject?_of_map .number (fun _ => rfl) h
    · exact asObject?_of_map .text (fun _ => rfl) h
    · rename_i heq
      cases (List.cons.inj heq).1
      cases hc
    · rename_i heq
      cases (List.cons.inj heq).1
      cases hc
    · split at h
      · exact asObject?_of_map .number (fun _ => rfl) h
      · cases h

/-- No draft is read from it either. -/
theorem read_ne_ok {c : Char} (hc : isAlphanumeric c = true) {raw : String}
    (hraw : (stripFence raw).toList = c :: s) (d : Draft) : read raw ≠ .ok d := by
  intro h
  obtain ⟨v, hv, h⟩ := except_bind_eq_ok.mp h
  have hobject : v.asObject? = none := by
    cases hp : Json.parse (stripFence raw) with
    | error e =>
      rw [Json.read, hp] at hv
      cases hv
    | ok w =>
      rw [Json.read, hp] at hv
      cases hv
      obtain ⟨⟨u, r⟩, hread, hfinish⟩ := except_bind_eq_ok.mp hp
      have hu : u.asObject? = none := by
        rw [hraw] at hread
        exact value_of_isAlphanumeric hc hread
      unfold Json.Read.finish at hfinish
      split at hfinish
      · cases hfinish
        exact hu
      · cases hfinish
  cases v with
  | object members => cases hobject
  | null | bool | number | text | array => cases h

theorem read_congr {a b : String} (h : stripFence a = stripFence b) : read a = read b := by
  unfold read
  rw [h]

theorem stripFence_body {body : String} (hb : IsBody body.toList) : stripFence body = body := by
  have h := unfenced_bare hb (List.forall_mem_nil _) (List.forall_mem_nil _)
  rw [List.nil_append, List.append_nil] at h
  rw [stripFence, h, String.ofList_toList]

/-- No draft is read from a body with a tag in front of it. -/
theorem Wrapping.read_inline_ne_ok (w : Wrapping) {body : String} (htag : w.tag ≠ "")
    (hkept : stripFence (w.inline body) = w.tag ++ body) (d : Draft) :
    read (w.inline body) ≠ .ok d := by
  obtain ⟨c, s, hc⟩ : ∃ c s, w.tag.toList = c :: s := by
    cases hs : w.tag.toList with
    | nil => exact absurd (String.toList_eq_nil_iff.mp hs) htag
    | cons c s => exact ⟨c, s, rfl⟩
  have hfirst : (stripFence (w.inline body)).toList = c :: (s ++ body.toList) := by
    rw [hkept, String.toList_append, hc]
    rfl
  exact read_ne_ok (w.isTag_tag c (hc ▸ List.mem_cons_self)) hfirst d

/-- A body is taken out of blanks, of a fence on lines of its own, and of a fence on its own lines
if that has no tag or the body is a single line, and the same draft is read from all of them. Behind
any other fence the tag is left in front of the body, and no draft is read from it. -/
theorem read_wrapped (w : Wrapping) (body : String) (hb : IsBody body.toList) :
    (stripFence (w.bare body) = body ∧ read (w.bare body) = read body) ∧
      (stripFence (w.lines body) = body ∧ read (w.lines body) = read body) ∧
      (w.tag = "" ∨ '\n' ∉ body.toList →
        stripFence (w.inline body) = body ∧ read (w.inline body) = read body) ∧
      (w.tag ≠ "" → '\n' ∈ body.toList →
        stripFence (w.inline body) = w.tag ++ body ∧ ∀ d, read (w.inline body) ≠ .ok d) := by
  have hread {raw : String} (h : stripFence raw = body) :
      stripFence raw = body ∧ read raw = read body :=
    ⟨h, read_congr (h.trans (stripFence_body hb).symm)⟩
  have hinline := w.stripFence_inline hb
  refine ⟨hread (w.stripFence_bare hb), hread (w.stripFence_lines hb), ?_, ?_⟩
  · rintro (htag | hline)
    · refine hread ?_
      rw [hinline, htag]
      split_ifs
      · exact String.empty_append
      · rfl
    · exact hread (hinline.trans (if_neg hline))
  · intro htag hline
    have hkept := hinline.trans (if_pos hline)
    exact ⟨hkept, w.read_inline_ne_ok htag hkept⟩

/-- A fence of the usual language. -/
def jsonFence : Wrapping :=
  ⟨" ", "json", "\n", by decide, by decide⟩

theorem read_wrapped_braces :
    IsBody "\x7b\x7d".toList ∧ stripFence (jsonFence.inline "\x7b\x7d") = "\x7b\x7d" :=
  have hb : IsBody "\x7b\x7d".toList := ⟨rfl, rfl⟩
  ⟨hb, ((read_wrapped jsonFence "\x7b\x7d" hb).2.2.1 (.inr (by decide))).1⟩

/-- A document of two lines. -/
def twoLines : String :=
  "\x7b\"meta\":\x7b\"title\":\"A\",\"slug\":\"a\",\"description\":\"A\"\x7d,\n\"sections\":[]\x7d"

/-- Of a body of two lines the tag is kept, and the draft that the body is gets lost. -/
theorem tag_left_before_lines :
    stripFence "\x7b\n\x7d" = "\x7b\n\x7d" ∧
      stripFence "```json\x7b\n\x7d```" = "json\x7b\n\x7d" ∧
      (read twoLines).isOk = true ∧ (read (jsonFence.inline twoLines)).isOk = false :=
  ⟨by decide, by decide, by decide +kernel, by decide +kernel⟩

end AppDef.Draft
