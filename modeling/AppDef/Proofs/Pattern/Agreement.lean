import AppDef.Lint
import AppDef.Proofs.Outcome
import AppDef.Proofs.Pattern.Meaning
import AppDef.Proofs.Pattern.Whole

namespace AppDef

namespace Pattern

/-- The pattern takes all of the text. -/
def Covers (p : Pattern) (text : String) : Prop :=
  text.toList.length ∈ reach text.toList p [0]

instance (p : Pattern) (text : String) : Decidable (p.Covers text) :=
  inferInstanceAs (Decidable (_ ∈ _))

/-- What is asked of a whole text. -/
def whole (p : Pattern) : Pattern :=
  .concat [.look .start, .concat [p], .look .stop]

theorem reach_start (text : List Char) :
    reach text (.look .start) (List.range (text.length + 1)) = [0] := by
  rw [List.range_succ_eq_map]
  simp [reach, Look.holds, List.filter_eq_nil_iff]

theorem reach_whole (p : Pattern) (text : List Char) :
    reach text p.whole (List.range (text.length + 1)) =
      (reach text p [0]).filter fun i => Look.stop.holds text i := by
  have hconcat : reach text p.whole (List.range (text.length + 1)) =
      reach text (.look .stop)
        (reach text p (reach text (.look .start) (List.range (text.length + 1)))) := by
    simp only [whole, reach, reachAll]
  rw [hconcat, reach_start, reach]

theorem occursIn_whole (p : Pattern) (text : String) :
    p.whole.occursIn text = true ↔ p.Covers text := by
  change (!(reach text.toList p.whole (List.range (text.toList.length + 1))).isEmpty) = true ↔ _
  rw [reach_whole, Covers]
  simp [Look.holds]

def around (source : List Char) : List Char :=
  "^(?:".toList ++ source ++ ")$".toList

theorem around_eq (source : List Char) :
    around source = '^' :: '(' :: '?' :: ':' :: (source ++ closing) :=
  rfl

/-- The source leaves no comment open at its end, and it can be nested two levels deeper. -/
structure Embeddable (source : List Char) : Prop where
  closed : Closed source ∨ 'x' ∉ source
  room : ∀ a, parse source = .ok a → tooDeep? (nestingLimit - 2) a = none

theorem ofAst_around (start open_ group stop : Span) (a : Ast) :
    ofAst .default (Ast.around start open_ group stop (moved a)) =
      (moved (ofAst .default a)).map fun p => (whole p.1, Flags.default) := by
  have hgroup : ofAst (Flags.default.update []) (moved a) = moved (ofAst .default a) :=
    ofAst_moved .default a
  simp only [Ast.around, ofAst, ofAsts, except_ok_bind, hgroup]
  cases moved (ofAst .default a) <;> rfl

theorem tooDeep?_around {room : Nat} (start open_ group stop : Span) (a : Ast) :
    tooDeep? (room + 2) (Ast.around start open_ group stop (moved a)) =
      moved (tooDeep? room a) := by
  rw [← tooDeep?_moved]
  simp only [Ast.around, tooDeep?, tooDeepParts?]
  cases h : tooDeep? room (moved a) <;> simp [h]

/-- The reading of a source from its first character on. -/
def reading (source : List Char) : Reading Ast :=
  (loop (source.length + 1) ⟨[], .start, []⟩).run ⟨source, .start, false, []⟩

theorem compile_of_error {source : List Char} {e : SyntaxError} (h : reading source = .error e) :
    compile source = .error e := by
  unfold reading at h
  simp only [compile, parse, h, except_error_bind]

theorem compile_of_deep {source : List Char} {a : Ast} {c : Cursor} {span : Span}
    (h : reading source = .ok (a, c)) (hdeep : tooDeep? nestingLimit a = some span) :
    compile source = .error ⟨.nestedTooDeep, span, none⟩ := by
  unfold reading at h
  simp only [compile, parse, h, except_ok_bind, hdeep, except_error_bind]

theorem parse_of_reading {source : List Char} {a : Ast} {c : Cursor}
    (h : reading source = .ok (a, c)) (hdeep : tooDeep? nestingLimit a = none) :
    parse source = .ok a := by
  unfold reading at h
  simp only [parse, h, except_ok_bind, hdeep]

theorem compile_of_parse {source : List Char} {a : Ast} (h : parse source = .ok a) :
    compile source = (ofAst .default a).map Prod.fst := by
  simp only [compile, h, except_ok_bind]
  cases ofAst .default a <;> rfl

theorem wholeFollows_reading (source : List Char) :
    WholeFollows (Closed source ∨ 'x' ∉ source) (reading source) (reading (around source)) := by
  have hlength : (around source).length + 1 = source.length + 5 + 2 := by
    simp [around_eq, closing]
  have hopening : reading (around source) =
      (loop (source.length + 5) (moved (⟨[], .start, []⟩ : Groups))).run
        (Cursor.embedded ⟨source, .start, false, []⟩) := by
    rw [reading, hlength]
    exact loop_opening source (source.length + 5)
  rw [hopening]
  refine wholeFollows_loop (Nat.le_refl 1) (fun h => h.imp_right fun hx => ?_) ?_ ?_
  · exact ⟨⟨rfl, hx⟩, fun _ _ _ _ hmem => by cases hmem⟩
  · exact Nat.lt_succ_self _
  · exact Nat.add_lt_add_left (by decide) source.length

theorem compile_around (source : List Char) :
    (∃ p, compile source = .ok p ∧ compile (around source) = .ok p.whole) ∨
      (∃ e, compile source = .error e ∧ e.fault = .groupUnopened) ∨
      (∃ e, compile (around source) = .error e) ∧
        (Embeddable source → ∃ e, compile source = .error e) := by
  have h := wholeFollows_reading source
  generalize hr₁ : reading source = r₁, hr₂ : reading (around source) = r₂ at h
  cases h with
  | unopened hfault => exact .inr (.inl ⟨_, compile_of_error hr₁, hfault⟩)
  | refused hrefused =>
    refine .inr (.inr ⟨⟨_, compile_of_error hr₂⟩, fun hsource => ?_⟩)
    obtain ⟨e, he⟩ := hrefused hsource.closed
    exact ⟨e, compile_of_error (hr₁.trans he)⟩
  | @same a c d start open_ group stop =>
    have haround : tooDeep? nestingLimit (Ast.around start open_ group stop (moved a)) =
        moved (tooDeep? (nestingLimit - 2) a) := tooDeep?_around start open_ group stop a
    cases hroom : tooDeep? (nestingLimit - 2) a with
    | some span =>
      rw [hroom] at haround
      refine .inr (.inr ⟨⟨_, compile_of_deep hr₂ haround⟩, fun hsource => ?_⟩)
      cases hdeep : tooDeep? nestingLimit a with
      | some span => exact ⟨_, compile_of_deep hr₁ hdeep⟩
      | none =>
        have hnone := hsource.room a (parse_of_reading hr₁ hdeep)
        rw [hroom] at hnone
        cases hnone
    | none =>
      rw [hroom] at haround
      have hdeep := tooDeep?_mono (Nat.sub_le nestingLimit 2) a hroom
      have hsource := compile_of_parse (parse_of_reading hr₁ hdeep)
      have hwhole := compile_of_parse (parse_of_reading hr₂ haround)
      rw [ofAst_around] at hwhole
      cases hmeaning : ofAst .default a with
      | error e =>
        rw [hmeaning] at hsource hwhole
        exact .inr (.inr ⟨⟨_, hwhole⟩, fun _ => ⟨_, hsource⟩⟩)
      | ok p =>
        rw [hmeaning] at hsource hwhole
        exact .inl ⟨p.1, hsource, hwhole⟩

theorem whole?_of_error {source : String} {e : SyntaxError}
    (h : compile source.toList = .error e) (hfault : e.fault ≠ .groupUnopened) :
    whole? source = none := by
  change (compile (around source.toList)).toOption = none
  rcases compile_around source.toList with ⟨p, hp, -⟩ | ⟨e', he', hunopened⟩ | ⟨⟨e', he'⟩, -⟩
  · rw [h] at hp
    cases hp
  · rw [h] at he'
    cases he'
    exact absurd hunopened hfault
  · rw [he']
    rfl

theorem whole?_of_ok {source : String} {p : Pattern} (h : compile source.toList = .ok p) :
    (whole? source = none ∨ whole? source = some p.whole) ∧
      (Embeddable source.toList → whole? source = some p.whole) := by
  change ((compile (around source.toList)).toOption = none ∨
    (compile (around source.toList)).toOption = _) ∧
      (_ → (compile (around source.toList)).toOption = _)
  rcases compile_around source.toList with ⟨q, hq, hwhole⟩ | ⟨e, he, -⟩ | ⟨⟨e, he⟩, hsource⟩
  · rw [h] at hq
    cases hq
    rw [hwhole]
    exact ⟨.inr rfl, fun _ => rfl⟩
  · rw [h] at he
    cases he
  · rw [he]
    refine ⟨.inl rfl, fun hembeddable => ?_⟩
    obtain ⟨e', he'⟩ := hsource hembeddable
    rw [h] at he'
    cases he'

end Pattern

namespace Lint

theorem pattern_eq_nil_iff {location : String} {f : Field} {source : String}
    (h : f.bounds.pattern = some source) :
    pattern location f = [] ↔ ∃ p, Pattern.compile source.toList = .ok p := by
  simp only [pattern, h]
  cases Pattern.compile source.toList <;> simp

end Lint

namespace Field

variable {f : Field} {source : String} {v : Json}

/-- The value passes the check of an email address, where there is one. -/
def Addressed (f : Field) (v : Json) : Prop :=
  f.kind = .email → Pattern.emailAddress.occursIn (Text.trimmed v.display) = true

theorem violation?_of_text (hkind : f.kind.isTextLike = true)
    (hanswer : Json.unanswered (some v) = false) : f.violation? (some v) = f.textViolation? v := by
  have hcheckbox : f.kind ≠ .checkbox := fun h => by simp [h, FieldKind.isTextLike] at hkind
  have hnumber : f.kind ≠ .number := fun h => by simp [h, FieldKind.isTextLike] at hkind
  have hoptions : f.kind.hasOptions = false := by
    cases hk : f.kind <;> first | rfl | simp [hk, FieldKind.isTextLike] at hkind
  simp only [violation?, if_neg hcheckbox, hanswer, Option.bind_some, answerViolation?,
    if_neg hnumber, hoptions, hkind, Bool.false_eq_true, if_false, if_true]

theorem check_of_text (hkind : f.kind.isTextLike = true)
    (hanswer : Json.unanswered (some v) = false) (hmail : f.Addressed v)
    (hsource : f.bounds.pattern = some source) :
    f.check (some v) = if (Pattern.whole? source).any (!·.occursIn v.display) then
      some (f.report .patternMismatch) else none := by
  have hnoMail : (decide (f.kind = .email) &&
      !Pattern.emailAddress.occursIn (Text.trimmed v.display)) = false := by
    by_cases h : f.kind = .email
    · simp [hmail h]
    · simp [h]
  rw [check, violation?_of_text hkind hanswer]
  simp only [textViolation?, hnoMail, hsource, Option.bind_some, Bool.false_eq_true, if_false]
  split <;> rfl

/-- Which patterns are in force by their syntax and their meaning alone, with no bound to the size
that they come to. One that lint reports is ignored, unless it closes a group that it does not open.
One that lint does not report is in force if it still is a pattern with what is put around it: the
check then refuses the texts that it does not take as a whole. -/
theorem pattern_in_force (location : String) (hkind : f.kind.isTextLike = true)
    (hanswer : Json.unanswered (some v) = false) (hmail : f.Addressed v)
    (hsource : f.bounds.pattern = some source) :
    (Lint.pattern location f ≠ [] → ∃ e, Pattern.compile source.toList = .error e ∧
      (e.fault ≠ .groupUnopened → f.check (some v) = none)) ∧
    (Lint.pattern location f = [] → ∃ p, Pattern.compile source.toList = .ok p ∧
      (Pattern.Embeddable source.toList → (Pattern.whole? source).isSome = true) ∧
      (f.check (some v) = some (f.report .patternMismatch) ↔
        (Pattern.whole? source).isSome = true ∧ ¬ p.Covers v.display)) := by
  rw [Ne, Lint.pattern_eq_nil_iff hsource, check_of_text hkind hanswer hmail hsource]
  cases hcompile : Pattern.compile source.toList with
  | error e =>
    refine ⟨fun _ => ⟨e, rfl, fun hfault => ?_⟩, fun ⟨p, hp⟩ => by cases hp⟩
    rw [Pattern.whole?_of_error hcompile hfault]
    rfl
  | ok p =>
    obtain ⟨hwhole, hembeddable⟩ := Pattern.whole?_of_ok hcompile
    refine ⟨fun hreported => absurd ⟨p, rfl⟩ hreported, fun _ => ⟨p, rfl, fun h => ?_, ?_⟩⟩
    · rw [hembeddable h]
      rfl
    · rcases hwhole with hnone | hsome
      · simp [hnone]
      · simp [hsome, ← Pattern.occursIn_whole]

/-- A text field for a code of the given form. -/
def code (source : String) : Field where
  name := "code"
  label := "Code"
  kind := .text
  placeholder := none
  required := false
  options := []
  defaultValue := none
  constraints := some { Constraints.none with pattern := some source }
  extra := .empty

theorem pattern_in_force_digits : ∃ p, Pattern.compile "[0-9]+".toList = .ok p ∧
    (code "[0-9]+").check (some (.text "12a")) =
      some ⟨"code", "Code is invalid", "pattern_mismatch"⟩ ∧
    ¬ p.Covers "12a" := by
  have hanswer : Json.unanswered (some (.text "12a")) = false := by decide +kernel
  have hcheck : (code "[0-9]+").check (some (.text "12a")) =
      some ((code "[0-9]+").report .patternMismatch) := by decide +kernel
  have hmail : (code "[0-9]+").Addressed (.text "12a") := fun h => by cases h
  obtain ⟨p, hp, -, hmismatch⟩ :=
    (pattern_in_force "sections[0].fields[0]" rfl hanswer hmail rfl).2 (by decide +kernel)
  exact ⟨p, hp, hcheck, (hmismatch.mp hcheck).2⟩

/-- A pattern that closes the group around it is in force though lint reports it, and one whose
comment goes on behind it is ignored though lint does not. -/
theorem pattern_read_beyond_its_end :
    Lint.pattern "sections[0].fields[0]" (code "a)|(b") ≠ [] ∧
      (code "a)|(b").check (some (.text "zzz")) =
        some ⟨"code", "Code is invalid", "pattern_mismatch"⟩ ∧
      Lint.pattern "sections[0].fields[0]" (code "(?x)[0-9]+ # digits") = [] ∧
      (code "(?x)[0-9]+ # digits").check (some (.text "abc")) = none := by
  decide +kernel

end Field

end AppDef
