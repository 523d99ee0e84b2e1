import AppDef.Proofs.Template.Footprint
import AppDef.Proofs.Template.Tag

namespace AppDef

namespace Template

open Placeholder (replaceFrom valueOf)

/-- The character is neither a brace nor a mark of escape. -/
def isPlain (c : Char) : Bool :=
  c != '\x7b' && c != '\x7d' && c != '\\'

/-- Text in which no tag begins or ends and nothing is escaped. -/
structure Literal where
  text : String
  plain : text.toList.all isPlain = true

/-- Text and placeholders in turn. -/
structure Interleaving where
  head : Literal
  tail : List (Placeholder × Literal)

def writeTail : List (Placeholder × Literal) → List Char
  | [] => []
  | (p, l) :: tail => p.write (l.text.toList ++ writeTail tail)

def shownTail (env : Environment) : List (Placeholder × Literal) → String
  | [] => ""
  | (p, l) :: tail => valueOf env p.name ++ (l.text ++ shownTail env tail)

namespace Interleaving

/-- The template as it is written. -/
def source (t : Interleaving) : String :=
  String.ofList (t.head.text.toList ++ writeTail t.tail)

/-- The texts, with the display of its value in the place of each name. -/
def shown (env : Environment) (t : Interleaving) : String :=
  t.head.text ++ shownTail env t.tail

def placeholders (t : Interleaving) : List Placeholder :=
  t.tail.map (·.1)

end Interleaving

variable {env : Environment} {s rest : List Char} {p : Placeholder}

theorem Literal.noBrace (l : Literal) : ∀ c ∈ l.text.toList, c ≠ '\x7b' ∧ c ≠ '\\' := by
  intro c hc
  have hplain := List.all_eq_true.mp l.plain c hc
  simp only [isPlain, Bool.and_eq_true, bne_iff_ne] at hplain
  exact ⟨hplain.1.1, hplain.2⟩

theorem replaceFrom_append (hs : ∀ c ∈ s, c ≠ '\x7b' ∧ c ≠ '\\') (rest : List Char) :
    replaceFrom env 0 (s ++ rest) = s ++ replaceFrom env 0 rest := by
  induction s with
  | nil => rfl
  | cons c s ih =>
    obtain ⟨⟨hc, -⟩, hs⟩ := List.forall_mem_cons.mp hs
    have hread : Placeholder.read? (c :: (s ++ rest)) = none := by
      simp [Placeholder.read?, hc]
    simp only [List.cons_append, replaceFrom, hread, ih hs]

theorem replaceFrom_writeTail (tail : List (Placeholder × Literal)) :
    replaceFrom env 0 (writeTail tail) = (shownTail env tail).toList := by
  induction tail with
  | nil => rfl
  | cons e tail ih =>
    obtain ⟨p, l⟩ := e
    simp [writeTail, shownTail, p.replaceFrom_write, replaceFrom_append l.noBrace, ih]

theorem Interleaving.replace_source (t : Interleaving) (env : Environment) :
    Placeholder.replace t.source env = t.shown env := by
  simp [Placeholder.replace, source, shown, replaceFrom_append t.head.noBrace,
    replaceFrom_writeTail, String.ofList_append]

/-- The value is shown by the template language as it is displayed. -/
def IsSimple : Json → Prop
  | .null | .bool _ | .text _ => True
  | _ => False

theorem shownValue_of_isSimple {v : Json} (h : IsSimple v) :
    shownValue (dataValue v) = v.display := by
  cases v with
  | null | bool | text => rfl
  | number | array | object => cases h

/-- The name means nothing of its own to the template language. -/
structure Placeholder.IsFree (p : Placeholder) : Prop where
  noPlace : p.name ≠ "this"
  noHelper : Helper.named? p.name = none

theorem renderValue_of_isFree (hp : p.IsFree) : renderValue (Scope.ofData (data env)) p.call =
    .ok (shownValue (((env.get? p.name).map dataValue).getD .null)) := by
  have hresolve : (Scope.ofData (data env)).resolve [.named p.name] =
      .ok ((env.get? p.name).map dataValue) := by
    rw [← lookup_data]
    rfl
  have hname : paramName (Scope.ofData (data env)) (.path ⟨p.name, [.named p.name]⟩) = .ok p.name :=
    paramName_of_written rfl _
  simp [renderValue, hname, hp.noHelper, Placeholder.call, Call.isNameOnly, evalParam, hresolve]

theorem renderValue_call (hp : p.IsFree) (hv : ∀ v, env.get? p.name = some v → IsSimple v) :
    renderValue (Scope.ofData (data env)) p.call = .ok (valueOf env p.name) := by
  rw [renderValue_of_isFree hp]
  unfold valueOf
  cases hg : env.get? p.name with
  | none => rfl
  | some v => exact congrArg Except.ok (shownValue_of_isSimple (hv v hg))

/-- Nothing is open in the layout, and all it has is shown as a text. -/
structure Layout.Shows (scope : Scope) (l : Layout) (text : String) : Prop where
  frames : l.frames = []
  omitBlanks : l.omitBlanks = false
  omitLineEnd : l.omitLineEnd = false
  rendered : ∀ included, renderAll included scope l.elements.reverse = pure text

namespace Layout

variable {scope : Scope} {l l' : Layout} {done text : String}

theorem renderAll_append (included : Include) (es es' : List Element) :
    renderAll included scope (es ++ es') =
      (do let text ← renderAll included scope es
          let text' ← renderAll included scope es'
          return text ++ text') := by
  induction es with
  | nil => simp only [List.nil_append, renderAll, pure_bind, String.empty_append, bind_pure]
  | cons e es ih =>
    simp only [List.cons_append, renderAll, ih, bind_assoc, pure_bind, String.append_assoc]

theorem Shows.start : start.Shows scope "" :=
  ⟨rfl, rfl, rfl, fun _ => rfl⟩

/-- What comes to a layout is shown behind what it has. -/
theorem Shows.append (h : l.Shows scope done) {e : Element}
    (he : ∀ included, renderElement included scope e = pure text) :
    Shows scope ⟨[], e :: l.elements, false, false⟩ (done ++ text) := by
  refine ⟨rfl, rfl, rfl, fun included => ?_⟩
  rw [List.reverse_cons, renderAll_append, h.rendered]
  simp [renderAll, he]

theorem Shows.addText (h : l.Shows scope done) (written : List Char) (isSpace : Bool) :
    (l.addText written isSpace).Shows scope (done ++ String.ofList written) := by
  obtain ⟨frames, elements, omitBlanks, omitLineEnd⟩ := l
  obtain ⟨rfl, rfl, rfl, -⟩ := id h
  have happend := h.append (e := .text (String.ofList written)) (fun _ => rfl)
  cases isSpace <;> exact happend

theorem Shows.addValue (h : l.Shows scope done) {call : Call}
    (hcall : renderValue scope call = .ok text) {alone : Bool}
    (hadd : l.add (.tag ⟨.value call, false, false⟩ alone) = some l') :
    l'.Shows scope (done ++ text) := by
  obtain ⟨frames, elements, omitBlanks, omitLineEnd⟩ := l
  obtain ⟨rfl, rfl, rfl, -⟩ := id h
  have happend := h.append (e := .value call) (fun included => by
    simp only [renderElement, hcall]
    rfl)
  cases hadd
  exact happend

theorem frames_mapLast (h : l.frames = []) (f : List Char → List Char) :
    (l.mapLast f).frames = [] := by
  unfold mapLast
  split
  · simp [withCurrent, h]
  · exact h

theorem frames_trim (h : l.frames = []) (m : Marked) : (l.trim m).frames = [] := by
  unfold trim
  dsimp only
  split
  · exact frames_mapLast h _
  · exact h

theorem frames_line (h : l.frames = []) (alone : Bool) : (l.line alone).frames = [] := by
  unfold line
  dsimp only
  split
  · exact frames_mapLast h _
  · exact h

/-- Where nothing is open no block can go on. -/
theorem add_of_isElse (h : l.frames = []) {m : Marked} (hm : m.tag.IsElse) (alone : Bool) :
    l.add (.tag m alone) = none := by
  have hframes : ((l.trim m).line alone).frames = [] := frames_line (frames_trim h m) alone
  simp only [add, addTag]
  cases ht : m.tag with
  | otherwise | otherwiseIf => simp only [nextBranch, hframes]
  | _ =>
    rw [ht] at hm
    cases hm

end Layout

/-- The pieces of a text make one layout into the other. -/
def Leads (source s : List Char) (l l' : Layout) : Prop :=
  ∃ fuel ps, piecesOf source fuel s = some ps ∧ ps.foldlM Layout.add l = some l'

variable {source : List Char} {scope : Scope} {l l' : Layout} {done text : String}

theorem Leads.eq_of_nil (h : Leads source [] l l') : l' = l := by
  obtain ⟨fuel, ps, hps, hfold⟩ := h
  cases fuel with
  | zero => cases hps
  | succ fuel =>
    cases hps
    exact (Option.some.inj hfold).symm

/-- Text goes on up to the next tag. -/
theorem takeText_append (hs : ∀ c ∈ s, c ≠ '\x7b' ∧ c ≠ '\\')
    (hrest : rest = [] ∨ opensTag rest = true) {fuel : Nat} (hfuel : s.length < fuel) :
    takeText opensTag fuel (s ++ rest) = (s, rest) := by
  induction s generalizing fuel with
  | nil =>
    cases fuel with
    | zero => cases hfuel
    | succ fuel =>
      rcases hrest with rfl | hrest
      · rfl
      · cases rest with
        | nil => cases hrest
        | cons c rest => simp [takeText, hrest]
  | cons c s ih =>
    obtain ⟨⟨hbrace, hescape⟩, hs⟩ := List.forall_mem_cons.mp hs
    cases fuel with
    | zero => cases hfuel
    | succ fuel =>
      have hopens : opensTag (c :: (s ++ rest)) = false := by simp [opensTag, hbrace]
      have htail := ih hs (Nat.lt_of_succ_lt_succ hfuel)
      simp [takeText, hopens, hescape, htail]

theorem Leads.of_append (h : Leads source (s ++ rest) l l')
    (hs : ∀ c ∈ s, c ≠ '\x7b' ∧ c ≠ '\\') (hrest : rest = [] ∨ opensTag rest = true)
    (hl : l.Shows scope done) :
    ∃ m, m.Shows scope (done ++ String.ofList s) ∧ Leads source rest m l' := by
  cases s with
  | nil => exact ⟨l, by simpa using hl, h⟩
  | cons c s =>
    obtain ⟨fuel, ps, hps, hfold⟩ := h
    cases fuel with
    | zero => cases hps
    | succ fuel =>
      obtain ⟨⟨hbrace, -⟩, -⟩ := List.forall_mem_cons.mp hs
      have hraw : opensRaw (c :: s ++ rest) = false := by simp [opensRaw, hbrace]
      have htag : opensTag (c :: s ++ rest) = false := by simp [opensTag, hbrace]
      have htake : takeText opensTag ((c :: s ++ rest).length + 1) (c :: s ++ rest) =
          (c :: s, rest) := takeText_append hs hrest (by rw [List.length_append]; omega)
      have hunfold : ∃ isSpace ps', piecesOf source fuel rest = some ps' ∧
          .text (c :: s) isSpace :: ps' = ps := by
        rw [piecesOf, hraw, htag, htake] at hps
        · obtain ⟨ps', hps', h⟩ := Option.bind_eq_some_iff.mp hps
          exact ⟨_, ps', hps', Option.some.inj h⟩
        · exact fun h => by cases h
      obtain ⟨isSpace, ps', hps', rfl⟩ := hunfold
      exact ⟨_, hl.addText (c :: s) isSpace, fuel, ps', hps', hfold⟩

theorem Leads.of_write (h : Leads source (p.write rest) l l') (hn : p.IsNarrow)
    (hp : p.IsFree) (hvalue : renderValue scope p.call = .ok text) (hl : l.Shows scope done) :
    ∃ m, m.Shows scope (done ++ text) ∧ Leads source rest m l' := by
  obtain ⟨fuel, ps, hps, hfold⟩ := h
  cases fuel with
  | zero => cases hps
  | succ fuel =>
    have hraw := p.not_opensRaw_write rest
    have htag : opensTag (p.write rest) = true := rfl
    have hunfold : ∃ m r ps', tag (p.write rest) = some (m, r) ∧ piecesOf source fuel r = some ps' ∧
        placed source (p.write rest) r m :: ps' = ps := by
      rw [piecesOf, hraw, htag] at hps
      · obtain ⟨⟨m, r⟩, hread, hps⟩ := Option.bind_eq_some_iff.mp hps
        obtain ⟨ps', hps', h⟩ := Option.bind_eq_some_iff.mp hps
        exact ⟨m, r, ps', hread, hps', Option.some.inj h⟩
      · exact fun h => by cases h
    obtain ⟨m, r, ps', hread, hps', rfl⟩ := hunfold
    rw [placed, List.foldlM_cons] at hfold
    obtain ⟨m', hadd, hmore⟩ := Option.bind_eq_some_iff.mp hfold
    -- A name like `elsewhere` is taken for a branch: the layout then fails, and so does the fold.
    rcases p.tag_write hn hp.noPlace hread with helse | ⟨rfl, rfl⟩
    · rw [Layout.add_of_isElse hl.frames helse] at hadd
      cases hadd
    · exact ⟨m', hl.addValue hvalue hadd, fuel, ps', hps', hmore⟩

theorem opensTag_writeTail (tail : List (Placeholder × Literal)) :
    writeTail tail = [] ∨ opensTag (writeTail tail) = true := by
  cases tail with
  | nil => exact .inl rfl
  | cons e tail => exact .inr rfl

/-- The placeholder is read as its name, and its value is shown as it is displayed. -/
structure Placeholder.IsVerbatim (env : Environment) (p : Placeholder) : Prop where
  narrow : p.IsNarrow
  free : p.IsFree
  simple : ∀ v, env.get? p.name = some v → IsSimple v

theorem Leads.shows_tail {tail : List (Placeholder × Literal)}
    (h : Leads source (writeTail tail) l l') (hall : ∀ e ∈ tail, e.1.IsVerbatim env)
    (hl : l.Shows (Scope.ofData (data env)) done) :
    l'.Shows (Scope.ofData (data env)) (done ++ shownTail env tail) := by
  induction tail generalizing l done with
  | nil =>
    cases h.eq_of_nil
    simpa [shownTail] using hl
  | cons e tail ih =>
    obtain ⟨p, text⟩ := e
    obtain ⟨hp, htail⟩ := List.forall_mem_cons.mp hall
    have hvalue := renderValue_call hp.free hp.simple
    obtain ⟨l₁, hl₁, h⟩ := h.of_write hp.narrow hp.free hvalue hl
    obtain ⟨l₂, hl₂, h⟩ := h.of_append text.noBrace (opensTag_writeTail tail) hl₁
    have hrest := ih h htail hl₂
    simpa [shownTail, String.append_assoc] using hrest

/-- A template that the language can read is shown as its texts and the values in turn. -/
theorem Interleaving.render_of_parse (t : Interleaving)
    (hall : ∀ p ∈ t.placeholders, p.IsVerbatim env) {elements : List Element}
    (h : parse t.source.toList = some elements) :
    render elements (data env) = .ok (t.shown env) := by
  obtain ⟨ps, hps, h⟩ := Option.bind_eq_some_iff.mp h
  obtain ⟨l, hfold, h⟩ := Option.bind_eq_some_iff.mp h
  have hleads : Leads t.source.toList (t.head.text.toList ++ writeTail t.tail) .start l :=
    ⟨_, ps, by simpa [pieces, source] using hps, hfold⟩
  obtain ⟨l₁, hl₁, hleads⟩ := hleads.of_append t.head.noBrace (opensTag_writeTail t.tail) .start
  have hl := hleads.shows_tail (fun e he => hall e.1 (List.mem_map_of_mem he)) hl₁
  rw [if_pos (by simp [hl.frames])] at h
  cases h
  rw [render, hl.rendered]
  simp [shown]

end Template

/-- Plain substitution shows the display of every value in the place of its name and changes nothing
else. Interpolation does the same where the template language reads the placeholders as their names
and shows the values as they are displayed. -/
theorem interpolate_verbatim (t : Template.Interleaving) (env : Environment) :
    Template.Placeholder.replace t.source env = t.shown env ∧
      ((∀ p ∈ t.placeholders, p.IsVerbatim env) →
        interpolate t.source env = .ok (t.shown env)) := by
  refine ⟨t.replace_source env, fun hall => ?_⟩
  unfold interpolate
  -- What the template language cannot read is left to plain substitution, which shows the same.
  cases hp : Template.parse t.source.toList with
  | none => simp only [t.replace_source]
  | some elements => simp only [t.render_of_parse hall hp]

namespace Template

/-- A greeting by name and nickname, with blanks of several kinds in the braces. -/
def greeting : Interleaving where
  head := ⟨"Dear ", by decide⟩
  tail := [
    (⟨" \t", "name", "\n", by decide, by decide⟩, ⟨" <i>(", by decide⟩),
    (⟨"", "nick", "", by decide, by decide⟩, ⟨")</i>", by decide⟩)]

/-- A name with a no-break space in front of it. -/
def padded : Interleaving where
  head := ⟨"", by decide⟩
  tail := [(⟨"\u00a0", "name", "", by decide, by decide⟩,
    ⟨"", by decide⟩)]

end Template

/-- A value that is written like a placeholder stays as it is, and a name without a value shows
nothing. -/
theorem interpolate_verbatim_greeting :
    let env : Environment := Dict.empty.insert "name" (.text "\x7b\x7bnick\x7d\x7d & <b>")
    (∀ p ∈ Template.greeting.placeholders, p.IsVerbatim env) ∧
      interpolate Template.greeting.source env =
        .ok "Dear \x7b\x7bnick\x7d\x7d & <b> <i>()</i>" := by
  intro env
  have hname : env.get? "name" = some (.text "\x7b\x7bnick\x7d\x7d & <b>") := rfl
  have hnick : env.get? "nick" = none := rfl
  have hall : ∀ p ∈ Template.greeting.placeholders, p.IsVerbatim env := by
    intro p hp
    rcases List.mem_cons.mp hp with rfl | hp
    · refine ⟨by decide, ⟨by decide, rfl⟩, fun v hv => ?_⟩
      cases hname.symm.trans hv
      trivial
    · cases List.mem_singleton.mp hp
      refine ⟨by decide, ⟨by decide, rfl⟩, fun v hv => ?_⟩
      cases hnick.symm.trans hv
  exact ⟨hall, (interpolate_verbatim Template.greeting env).2 hall⟩

/-- A blank beyond ASCII is part of a name to the template language: interpolation shows nothing
where plain substitution shows the value. -/
theorem wide_blank_hides_value :
    let env : Environment := Dict.empty.insert "name" (.text "Ada")
    (∀ p ∈ Template.padded.placeholders, p.IsFree ∧
      ∀ v, env.get? p.name = some v → Template.IsSimple v) ∧
      Template.padded.source = "\x7b\x7b\u00a0name\x7d\x7d" ∧
      Template.padded.shown env = "Ada" ∧
      Template.Placeholder.replace Template.padded.source env = "Ada" ∧
      interpolate Template.padded.source env = .ok "" := by
  intro env
  have hname : env.get? "name" = some (.text "Ada") := rfl
  have hsource : Template.padded.source = "\x7b\x7b\u00a0name\x7d\x7d" := by decide
  have hparse : Template.parse "\x7b\x7b\u00a0name\x7d\x7d".toList =
      some [.value ⟨.path ⟨"\u00a0name", [.named "\u00a0name"]⟩, [], []⟩] := by cbv
  refine ⟨fun p hp => ?_, hsource, rfl, Template.padded.replace_source env, ?_⟩
  · cases List.mem_singleton.mp hp
    refine ⟨⟨by decide, rfl⟩, fun v hv => ?_⟩
    cases hname.symm.trans hv
    trivial
  · rw [hsource]
    simp only [interpolate, hparse]
    rfl

end AppDef
