import AppDef.Evaluation
import AppDef.Proofs.Number.Notation
import AppDef.Proofs.Template.Verbatim

namespace AppDef

namespace Template

open Placeholder (isStart isPart)

variable {p : Placeholder} {name : String} {rest s : List Char} {env : Environment}

theorem after?_eq_some_iff {word s r : List Char} : after? word s = some r ↔ s = word ++ r := by
  induction word generalizing s with
  | nil => exact Option.some_inj
  | cons c word ih =>
    cases s with
    | nil => simp [after?]
    | cons d s =>
      by_cases h : c = d
      · simp [after?, h, ih]
      · simp [after?, h, Ne.symm h]

/-- What starts a text behind which stand closing braces starts the text, if it has no brace. -/
theorem prefix_of_append {word t : List Char} (hword : '\x7d' ∉ word)
    (h : word <+: s ++ '\x7d' :: t) : word <+: s := by
  rcases List.prefix_or_prefix_of_prefix h (List.prefix_append s _) with hs | ⟨r, hr⟩
  · exact hs
  · cases r with
    | nil => exact ⟨[], by simpa using hr.symm⟩
    | cons c r =>
      rw [← hr, List.prefix_append_right_inj] at h
      rw [(List.cons_prefix_cons.mp h).1] at hr
      exact absurd (hr ▸ List.mem_append_right s List.mem_cons_self) hword

theorem ne_of_isPart {c d : Char} (h : isPart c = true) (hd : isPart d = false) : c ≠ d := by
  rintro rfl
  rw [h] at hd
  cases hd

theorem skipSpace_of_isPart {c : Char} (hc : isPart c = true) (s : List Char) :
    skipSpace (c :: s) = c :: s := by
  have hspace : isSpace c = false := by
    simp [isSpace, ne_of_isPart hc (d := ' ') rfl, ne_of_isPart hc (d := '\t') rfl,
      ne_of_isPart hc (d := '\n') rfl, ne_of_isPart hc (d := '\r') rfl]
  simp [skipSpace, hspace]

theorem closing_braces (rest : List Char) :
    closing (braces 2) ('\x7d' :: '\x7d' :: rest) = some (false, rest) :=
  rfl

theorem closing_of_isPart {c : Char} (hc : isPart c = true) (s : List Char) :
    closing (braces 2) (c :: s) = none := by
  have htrim : c ≠ '~' := ne_of_isPart hc rfl
  have hbrace : '\x7d' ≠ c := (ne_of_isPart hc rfl).symm
  simp [closing, trimMark, skipSpace_of_isPart hc, htrim, braces, after?, hbrace]

/-- The name of a block goes up to the closing braces. -/
theorem blockCall_of_isPart (hs : s ≠ []) (hparts : ∀ c ∈ s, isPart c = true) (rest : List Char) :
    ∃ call, blockCall (s ++ '\x7d' :: rest) = some ((call, []), '\x7d' :: rest) := by
  have hspan := span_eq (t := '\x7d' :: rest) (fun c hc => isNamePart_of_isPart (hparts c hc))
    (by rintro _ ⟨⟩; rfl)
  have hname : identifier (s ++ '\x7d' :: rest) = some (String.ofList s, '\x7d' :: rest) := by
    unfold identifier
    rw [hspan.1, hspan.2]
    cases s with
    | nil => exact absurd rfl hs
    | cons c s => rfl
  have hgiven : parameters (depthIn ('\x7d' :: rest)) ('\x7d' :: rest) =
      ([], '\x7d' :: rest) := parameters_of_halts (.inl rfl) rfl _
  have hnames : blockNames (skipSpace ('\x7d' :: rest)) = none := rfl
  exact ⟨_, by
    simp only [blockCall, hname, hgiven, hnames, Option.bind_eq_bind, Option.bind_some]
    rfl⟩

/-- The word that goes on with a block. -/
def elseWord : List Char :=
  ['e', 'l', 's', 'e']

/-- Every name that starts with the word is taken for a branch: its rest is read as a block. -/
theorem otherwiseTag_of_elseWord (hparts : ∀ c ∈ s, isPart c = true) (h : elseWord <+: s)
    (rest : List Char) :
    ∃ m, otherwiseTag false (s ++ '\x7d' :: '\x7d' :: rest) = some (m, rest) := by
  obtain ⟨t, rfl⟩ := h
  have hword : otherwiseWord? (elseWord ++ t ++ '\x7d' :: '\x7d' :: rest) =
      some (t ++ '\x7d' :: '\x7d' :: rest) := by
    have hafter : after? ['e', 'l', 's', 'e'] (elseWord ++ t ++ '\x7d' :: '\x7d' :: rest) =
        some (t ++ '\x7d' :: '\x7d' :: rest) := after?_eq_some_iff.mpr (List.append_assoc _ _ _)
    rw [otherwiseWord?, hafter]
    rfl
  unfold otherwiseTag
  rw [hword]
  cases t with
  | nil => exact ⟨_, rfl⟩
  | cons c t =>
    have htail : ∀ d ∈ c :: t, isPart d = true := fun d hd =>
      hparts d (List.mem_append_right _ hd)
    have hc : isPart c = true := htail c List.mem_cons_self
    obtain ⟨call, hcall⟩ := blockCall_of_isPart (List.cons_ne_nil c t) htail ('\x7d' :: rest)
    rw [List.cons_append] at hcall ⊢
    have hbind : skipSpace (c :: (t ++ '\x7d' :: '\x7d' :: rest)) =
        c :: (t ++ '\x7d' :: '\x7d' :: rest) := skipSpace_of_isPart hc _
    refine ⟨⟨.otherwiseIf call [], false, false⟩, ?_⟩
    simp only [Option.bind_eq_bind, Option.bind_some, closing_of_isPart hc, hbind, marked, closed,
      hcall, closing_braces]
    rfl

theorem otherwiseTag_of_not_elseWord (hs : s ≠ []) (hparts : ∀ c ∈ s, isPart c = true)
    (h : ¬ elseWord <+: s) (rest : List Char) :
    otherwiseTag false (s ++ '\x7d' :: '\x7d' :: rest) = none := by
  have hafter : after? ['e', 'l', 's', 'e'] (s ++ '\x7d' :: '\x7d' :: rest) = none := by
    rw [Option.eq_none_iff_forall_ne_some]
    intro r hr
    exact h (prefix_of_append (by decide) ⟨r, (after?_eq_some_iff.mp hr).symm⟩)
  have hsign : after? ['^'] (s ++ '\x7d' :: '\x7d' :: rest) = none := by
    cases s with
    | nil => exact absurd rfl hs
    | cons c s =>
      have hc : '^' ≠ c := (ne_of_isPart (hparts c List.mem_cons_self) rfl).symm
      simp [after?, hc]
  simp [otherwiseTag, otherwiseWord?, hafter, hsign]

/-- A template that is a name between braces. -/
def plainTag (name : String) : String :=
  "\x7b\x7b" ++ name ++ "\x7d\x7d"

namespace Placeholder

/-- A name between braces without blanks. -/
def ofName (name : String) (h : isIdentifier name.toList = true) : Placeholder :=
  ⟨"", name, "", rfl, h⟩

variable (h : isIdentifier name.toList = true)

theorem isNarrow_ofName : (ofName name h).IsNarrow := by
  intro c hc
  simp [ofName] at hc

theorem tail_ofName (rest : List Char) : (ofName name h).tail rest = '\x7d' :: '\x7d' :: rest := by
  simp [tail, ofName]

theorem write_ofName : (ofName name h).write [] = (plainTag name).toList := by
  simp [write, ofName, tail, plainTag]

include h in
theorem name_ne_nil : name.toList ≠ [] := by
  intro hnil
  rw [hnil] at h
  cases h

theorem tag_ofName : tag ((ofName name h).write []) =
    (otherwiseTag false (name.toList ++ ['\x7d', '\x7d'])).orElse
      fun _ => marked false .value valueCall (name.toList ++ ['\x7d', '\x7d']) := by
  have hbefore : (ofName name h).before.toList = [] := by simp [ofName]
  have hinside := tagInside_eq (ofName name h) (skipSpace_name (ofName name h) [])
  rw [tail_ofName] at hinside
  rw [tag_eq_tagInside, hbefore, tail_ofName, List.nil_append]
  exact hinside

theorem tag_of_elseWord (helse : elseWord <+: name.toList) :
    ∃ m, tag ((ofName name h).write []) = some (m, []) ∧ m.tag.IsElse := by
  have hparts : ∀ c ∈ name.toList, isPart c = true := isPart_of_mem (ofName name h)
  obtain ⟨m, hm⟩ := otherwiseTag_of_elseWord hparts helse []
  exact ⟨m, by rw [tag_ofName, hm]; rfl, isElse_of_otherwiseTag hm⟩

theorem tag_of_not_elseWord (hthis : name ≠ "this") (helse : ¬ elseWord <+: name.toList) :
    tag ((ofName name h).write []) = some (⟨.value (ofName name h).call, false, false⟩, []) := by
  have hparts : ∀ c ∈ name.toList, isPart c = true := isPart_of_mem (ofName name h)
  have hcall := (ofName name h).valueCall_name (isNarrow_ofName h) hthis []
  rw [tail_ofName] at hcall
  change valueCall (name.toList ++ ['\x7d', '\x7d']) = some (_, ['\x7d', '\x7d']) at hcall
  rw [tag_ofName, otherwiseTag_of_not_elseWord (name_ne_nil h) hparts helse [], Option.orElse_none]
  simp only [marked, closed, hcall, Option.bind_eq_bind, Option.bind_some, closing_braces]
  rfl

/-- A template that is one tag. -/
theorem parse_of_tag {m : Marked} (htag : tag ((ofName name h).write []) = some (m, [])) :
    ∃ alone, parse (plainTag name).toList = (Layout.start.add (.tag m alone)).bind
      fun l => if l.frames.isEmpty then some l.elements.reverse else none := by
  refine ⟨startsLine (plainTag name).toList (plainTag name).toList && endsLine [], ?_⟩
  rw [← write_ofName h]
  have hraw := (ofName name h).not_opensRaw_write []
  have hopens : opensTag ((ofName name h).write []) = true := rfl
  obtain ⟨n, hn⟩ : ∃ n, ((ofName name h).write []).length = n + 1 := ⟨_, rfl⟩
  have hpieces : pieces ((ofName name h).write []) =
      some [placed ((ofName name h).write []) ((ofName name h).write []) [] m] := by
    rw [pieces, hn, piecesOf, hraw, hopens]
    · simp only [Bool.false_eq_true, if_false, if_true, htag, Option.bind_eq_bind, Option.bind_some]
      rfl
    · exact fun h => by cases h
  simp only [parse, hpieces, Option.bind_eq_bind, Option.bind_some, List.foldlM_cons,
    List.foldlM_nil, Option.pure_def, Option.bind_fun_some, placed]

end Placeholder

variable (h : isIdentifier name.toList = true)
include h

theorem replace_plainTag (env : Environment) :
    Placeholder.replace (plainTag name) env = Placeholder.valueOf env name := by
  rw [Placeholder.replace, ← Placeholder.write_ofName h, Placeholder.replaceFrom_write,
    Placeholder.replaceFrom, List.append_nil, String.ofList_toList]
  rfl

/-- What is taken for a branch of a block is left to plain substitution. -/
theorem interpolate_of_elseWord (helse : elseWord <+: name.toList) (env : Environment) :
    interpolate (plainTag name) env = .ok (Placeholder.valueOf env name) := by
  obtain ⟨m, htag, hm⟩ := Placeholder.tag_of_elseWord h helse
  obtain ⟨alone, hparse⟩ := Placeholder.parse_of_tag h htag
  rw [Layout.add_of_isElse rfl hm] at hparse
  change _ = none at hparse
  simp only [interpolate, hparse, replace_plainTag h]

theorem interpolate_of_not_elseWord (hthis : name ≠ "this") (hhelper : Helper.named? name = none)
    (helse : ¬ elseWord <+: name.toList) (env : Environment) : interpolate (plainTag name) env =
      .ok (shownValue (((env.get? name).map dataValue).getD .null)) := by
  obtain ⟨alone, hparse⟩ :=
    Placeholder.parse_of_tag h (Placeholder.tag_of_not_elseWord h hthis helse)
  change _ = some [Element.value (Placeholder.ofName name h).call] at hparse
  have hvalue : renderValue (Scope.ofData (data env)) (Placeholder.ofName name h).call =
      .ok (shownValue (((env.get? name).map dataValue).getD .null)) :=
    renderValue_of_isFree ⟨hthis, hhelper⟩
  have hrender : render [.value (Placeholder.ofName name h).call] (data env) =
      .ok (shownValue (((env.get? name).map dataValue).getD .null)) := by
    simp only [render, renderAll, renderElement, hvalue]
    simp
  simp only [interpolate, hparse, hrender]

omit h

/-- A name that is neither a place of the template language nor one of its helpers. -/
structure IsPlainName (name : String) : Prop where
  isName : isIdentifier name.toList = true
  noPlace : name ≠ "this"
  noHelper : Helper.named? name = none

open AppDef.Number (whole? compact plain display ReadsAlike)

variable {x : Float}

/-- What was normalised is not changed by being normalised again. -/
theorem dataValue_ofComputed (x : Float) : dataValue (.ofComputed x) = .ofComputed x := by
  cases hw : whole? x with
  | some i =>
    have hagain := Number.whole?_ofInt (Number.natAbs_lt_of_whole? hw)
    simp [Json.ofComputed, hw, dataValue, Json.Number.toFloat, hagain]
  | none =>
    by_cases hf : x.isFinite = true
    · simp [Json.ofComputed, hw, hf, dataValue, Json.ofFloat, Json.Number.toFloat]
    · simp [Json.ofComputed, hw, hf, dataValue]

theorem kind_ne_finite (h : x.isFinite = false) (p : Number.Parts) :
    Number.kind x ≠ .finite p := by
  intro hk
  rw [Number.isFinite_iff.mpr ⟨p, hk⟩] at h
  cases h

/-- What is no number is displayed by a word, and a template shows nothing for it. -/
theorem shownValue_ne_of_not_isFinite (h : x.isFinite = false) :
    shownValue (.ofComputed x) ≠ display x := by
  have hnone : whole? x = none := by
    rw [Option.eq_none_iff_forall_ne_some]
    intro i hi
    obtain ⟨p, -, hk, -⟩ := Number.kind_of_whole? hi
    exact kind_ne_finite h p hk
  have hshown : shownValue (.ofComputed x) = "" := by
    simp [Json.ofComputed, hnone, h, shownValue]
  have hdisplay : display x = plain x := by simp [display, hnone]
  rw [hshown, hdisplay]
  cases hk : Number.kind x with
  | finite p => exact absurd hk (kind_ne_finite h p)
  | infinite negative =>
    simp only [plain, hk]
    cases negative <;> decide
  | nan =>
    simp only [plain, hk]
    decide

/-- A template shows a number as it is displayed exactly if it reads alike. -/
theorem shownValue_ofComputed_iff (x : Float) :
    shownValue (.ofComputed x) = display x ↔ ReadsAlike x := by
  cases hw : whole? x with
  | some i =>
    have halike := Number.readsAlike_of_whole? hw
    simp [Json.ofComputed, display, hw, shownValue, Json.Number.print, halike]
  | none =>
    cases hf : x.isFinite with
    | true =>
      obtain ⟨p, hk⟩ := Number.isFinite_iff.mp hf
      rw [Number.readsAlike_iff_of_whole?_eq_none hw hk]
      simp [Json.ofComputed, display, hw, hf, Json.ofFloat, shownValue, Json.Number.print]
    | false =>
      refine iff_of_false (shownValue_ne_of_not_isFinite hf) ?_
      rintro ⟨p, hk, -⟩
      exact kind_ne_finite hf p hk

theorem interpolate_number_iff {n : Json.Number} (hname : IsPlainName name)
    (hn : env.get? name = some (.number n)) :
    interpolate (plainTag name) env = .ok (Json.display (.number n)) ↔
      ReadsAlike n.toFloat ∨ elseWord <+: name.toList := by
  by_cases helse : elseWord <+: name.toList
  · rw [interpolate_of_elseWord hname.isName helse]
    simp [Placeholder.valueOf, hn, helse]
  · rw [interpolate_of_not_elseWord hname.isName hname.noPlace hname.noHelper helse, hn,
      Except.ok.injEq]
    simp only [helse, or_false]
    exact shownValue_ofComputed_iff n.toFloat

end Template

open AppDef.Number (ReadsAlike)
open AppDef.Template (plainTag elseWord IsPlainName)

namespace CalculatorSection

theorem isPlainName_resultVariable : IsPlainName resultVariable :=
  ⟨by decide, by decide, rfl⟩

/-- The calculator with another format for its result. -/
def withFormat (s : CalculatorSection) (format : Option String) : CalculatorSection :=
  { s with resultFormat := format }

variable {s : CalculatorSection} {env : Environment} {x : Float}

/-- The value is shown by a template of its name alone as a template shows any number. -/
theorem show?_plainTag (hs : s.resultFormat = some (plainTag resultVariable)) (env : Environment)
    (x : Float) : s.show? env x = .ok (Template.shownValue (.ofComputed x)) := by
  have hbound : (env.bindNumber resultVariable x).get? resultVariable = some (.ofComputed x) := by
    rw [Environment.bindNumber, Dict.get?_insert, if_pos rfl]
  have hplain := isPlainName_resultVariable
  simp only [show?, hs]
  rw [Template.interpolate_of_not_elseWord hplain.isName hplain.noPlace hplain.noHelper (by decide),
    hbound]
  simp [Template.dataValue_ofComputed]

theorem evaluate_of_show? {text : String} (hx : evaluateFormula s.formula env = .ok x)
    (hshown : s.show? env x = .ok text) :
    s.evaluate env = .ok (.ok ⟨s.resultLabel, x, text⟩) := by
  simp only [evaluate, hx, hshown]
  rfl

theorem evaluate_withFormat_iff (hx : evaluateFormula s.formula env = .ok x) :
    (s.withFormat (some (plainTag resultVariable))).evaluate env =
      (s.withFormat none).evaluate env ↔ ReadsAlike x := by
  have hformat := evaluate_of_show? (s := s.withFormat (some (plainTag resultVariable))) hx
    (show?_plainTag rfl env x)
  have hnone := evaluate_of_show? (s := s.withFormat none) hx rfl
  rw [hformat, hnone, ← Template.shownValue_ofComputed_iff]
  simp [withFormat]

end CalculatorSection

/-- A number reads the same in a template of its name and on its own exactly if it is whole and
below nine quadrillion, or has a fraction, is no smaller than `10 ^ (-5)` and lies between no two
shortest forms; what is taken for a branch of a block is substituted as it is displayed. The value
of a calculator reads the same with a format of its name and without one for the same numbers. -/
theorem numbers_read_alike_iff (env : Environment) :
    (∀ name (n : Json.Number), IsPlainName name → env.get? name = some (.number n) →
      (interpolate (plainTag name) env = .ok (Json.display (.number n)) ↔
        ReadsAlike n.toFloat ∨ elseWord <+: name.toList)) ∧
    ∀ (s : CalculatorSection) x, evaluateFormula s.formula env = .ok x →
      ((s.withFormat (some (plainTag resultVariable))).evaluate env =
        (s.withFormat none).evaluate env ↔ ReadsAlike x) := by
  constructor
  · intro name n hname hn
    exact Template.interpolate_number_iff hname hn
  · intro s x hx
    exact CalculatorSection.evaluate_withFormat_iff hx

/-- A width and nothing else. -/
def widthOf (x : Float) : Environment :=
  Dict.empty.insert "width" (.number (.float x))

/-- A calculator that passes the width on. -/
def widthCalculator : CalculatorSection :=
  ⟨none, [], "width", "Width", none⟩

theorem isPlainName_width : IsPlainName "width" :=
  ⟨by decide, by decide, rfl⟩

theorem interpolate_widthOf (x : Float) : interpolate (plainTag "width") (widthOf x) =
    .ok (Template.shownValue (.ofComputed x)) := by
  have h := isPlainName_width
  rw [Template.interpolate_of_not_elseWord h.isName h.noPlace h.noHelper (by decide)]
  rfl

theorem evaluateFormula_widthOf {x : Float} (hx : x.isFinite = true) :
    evaluateFormula widthCalculator.formula (widthOf x) = .ok x := by
  have hparse : Expr.parse "width" = .ok (.variable "width") := by cbv
  have hget : (widthOf x).get? "width" = some (.number (.float x)) := rfl
  simp [evaluateFormula, widthCalculator, hparse, Expr.evalNumber, Expr.eval, hget, Scalar.ofJson,
    Json.Number.toFloat, Scalar.asNumber?, hx]

/-- A half reads the same everywhere. -/
theorem numbers_read_alike_iff_half :
    let half := Number.nearest false 1 2
    interpolate (plainTag "width") (widthOf half) = .ok "0.5" ∧ ReadsAlike half ∧
      (widthCalculator.withFormat (some (plainTag resultVariable))).evaluate (widthOf half) =
        (widthCalculator.withFormat none).evaluate (widthOf half) := by
  intro half
  have hshown : Template.shownValue (.ofComputed half) = "0.5" := by decide +kernel
  have hdisplay : Json.display (.number (.float half)) = "0.5" := by decide +kernel
  have hpart := (interpolate_widthOf half).trans (congrArg Except.ok hshown)
  have hformula : evaluateFormula widthCalculator.formula (widthOf half) = .ok half :=
    evaluateFormula_widthOf (by decide +kernel)
  obtain ⟨hplaces, hcalculators⟩ := numbers_read_alike_iff (widthOf half)
  have halike : ReadsAlike half := by
    refine ((hplaces "width" (.float half) isPlainName_width rfl).mp ?_).resolve_right (by decide)
    rw [hpart, hdisplay]
  exact ⟨hpart, halike, (hcalculators widthCalculator half hformula).mpr halike⟩

/-- A small number, a large one and one between two shortest forms read in two ways, and a
calculator shows the small one in two ways as well. -/
theorem numbers_read_two_ways :
    (∀ e ∈ [(Number.nearest false 1 10000000, "1e-7", "0.0000001"),
        (Number.ofInt 9000000000000000, "9000000000000000.0", "9000000000000000"),
        (Number.nearest false 1073741825 2048, "524288.0004882812", "524288.0004882813")],
      interpolate (plainTag "width") (widthOf e.1) = .ok e.2.1 ∧
        Json.display (.number (.float e.1)) = e.2.2) ∧
    let small := Number.nearest false 1 10000000
    (widthCalculator.withFormat (some (plainTag resultVariable))).evaluate (widthOf small) =
        .ok (.ok ⟨"Width", small, "1e-7"⟩) ∧
      (widthCalculator.withFormat none).evaluate (widthOf small) =
        .ok (.ok ⟨"Width", small, "0.0000001"⟩) := by
  refine ⟨fun e he => ?_, ?_⟩
  · rw [interpolate_widthOf]
    simp only [List.mem_cons, List.not_mem_nil, or_false] at he
    rcases he with rfl | rfl | rfl
    · exact ⟨congrArg Except.ok (by decide +kernel), by decide +kernel⟩
    · exact ⟨congrArg Except.ok (by decide +kernel), by decide +kernel⟩
    · exact ⟨congrArg Except.ok (by decide +kernel), by decide +kernel⟩
  · intro small
    have hformula : evaluateFormula widthCalculator.formula (widthOf small) = .ok small :=
      evaluateFormula_widthOf (by decide +kernel)
    have hshown : Template.shownValue (.ofComputed small) = "1e-7" := by decide +kernel
    have hdisplay : Number.display small = "0.0000001" := by decide +kernel
    have hformat : (widthCalculator.withFormat (some (plainTag resultVariable))).show?
        (widthOf small) small = .ok "1e-7" := by
      rw [CalculatorSection.show?_plainTag rfl, hshown]
    have hnone : (widthCalculator.withFormat none).show? (widthOf small) small =
        .ok (Number.display small) := rfl
    rw [hdisplay] at hnone
    exact ⟨CalculatorSection.evaluate_of_show? (s := widthCalculator.withFormat _) hformula hformat,
      CalculatorSection.evaluate_of_show? (s := widthCalculator.withFormat _) hformula hnone⟩

end AppDef
