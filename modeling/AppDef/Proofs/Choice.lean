import AppDef.Proofs.Number.Exactness
import AppDef.Proofs.Validation

namespace AppDef

open Json (display)

namespace FieldOption

/-- The scalar that an entry among the options declares. -/
def declared? : Json → Option Json
  | .object members => members.lookup "value"
  | v => some v

/-- A number, a flag or a text that is not blank. -/
def IsChoice : Json → Prop
  | .number _ | .bool _ => True
  | .text s => Text.allBlank s = false
  | _ => False

/-- A choice that is displayed as it is spelled: a text, a flag, a whole number that is displayed by
its numeral or a fraction that is printed alike in both forms. -/
def IsSpelledOut : Json → Prop
  | .number (.whole i) => Number.ShowsExactly i
  | .number (.float x) => ∃ p, Number.kind x = .finite p ∧ p.PrintsAlike
  | v => IsChoice v

variable {entry v : Json} {s : String}

/-- An entry that declares a scalar is an option with its text as value. -/
theorem value_of_declared? (hv : declared? entry = some v) (hs : scalarText? v = some s) :
    ∃ o, ofJson? entry = some o ∧ o.value = s := by
  cases entry with
  | object members =>
    change members.lookup "value" = some v at hv
    exact ⟨_, by simp only [ofJson?, hv, Option.bind_eq_bind, Option.bind_some, hs]; rfl, rfl⟩
  | null | array =>
    cases hv
    cases hs
  | bool | number | text =>
    cases hv
    cases hs
    exact ⟨_, rfl, rfl⟩

theorem scalarText?_eq_display_iff (hv : IsChoice v) :
    scalarText? v = some v.display ↔ IsSpelledOut v := by
  cases v with
  | text s => exact iff_of_true rfl hv
  | bool b => exact iff_of_true rfl hv
  | number n =>
    cases n with
    | whole i => exact Option.some_inj.trans (eq_comm.trans (Number.display_ofInt_iff i))
    | float x => exact Option.some_inj.trans (Number.compact_eq_display_iff x)
  | null | array | object => cases hv

end FieldOption

namespace Field

open FieldOption (declared? IsChoice IsSpelledOut)

variable {f : Field} {entry v : Json} {members : List (String × Json)} {entries : List Json}

theorem violation?_of_choice (hk : f.kind.hasOptions = true) (hv : IsChoice v) :
    f.violation? (some v) = f.optionViolation? v := by
  have hkind := FieldKind.ne_of_hasOptions hk
  have hanswered : Json.unanswered (some v) = false := by
    cases v with
    | text s => exact hv
    | number | bool => rfl
    | null | array | object => cases hv
  rw [violation?, if_neg hkind.1, hanswered]
  simp [answerViolation?, hkind.2, hk]

/-- A choice is accepted where an option is spelled as it is displayed. -/
theorem check_choice (hk : f.kind.hasOptions = true) (hv : IsChoice v) :
    (f.check (some v) = none ↔ f.options = [] ∨ ∃ o ∈ f.options, o.value = v.display) ∧
      ∀ e, f.check (some v) = some e → e.code = "invalid_option" := by
  have hviolation := violation?_of_choice hk hv
  unfold check
  rw [hviolation, optionViolation?]
  constructor
  · split_ifs with h
    · refine iff_of_true rfl ?_
      simpa using h
    · refine iff_of_false (by simp) ?_
      simpa using h
  · intro e he
    split_ifs at he
    · cases he
    · cases he
      rfl

/-- An entry that declares a choice is among the options, spelled as it was written. -/
theorem mem_options_of_declared? (hentries : members.lookup "options" = some (.array entries))
    (he : entry ∈ entries) (hv : declared? entry = some v) {s : String}
    (hs : FieldOption.scalarText? v = some s) :
    ∃ o ∈ (ofMembers members).options, o.value = s := by
  obtain ⟨o, ho, hvalue⟩ := FieldOption.value_of_declared? hv hs
  refine ⟨o, ?_, hvalue⟩
  simp only [ofMembers, hentries, Option.map_some, Option.getD_some, optionsOf]
  exact List.mem_filterMap.mpr ⟨entry, he, ho⟩

theorem exists_scalarText? (hv : IsChoice v) : ∃ s, FieldOption.scalarText? v = some s := by
  cases v with
  | text | number | bool => exact ⟨_, rfl⟩
  | null | array | object => cases hv

/-- A declared choice is accepted exactly if an option is spelled as it is displayed, and refused as
no option otherwise. The option that declares it is spelled so exactly if the choice is a text, a
flag, a whole number that is displayed by its numeral or a fraction that is printed alike in both
forms, and each of these is accepted. -/
theorem declared_choice_accepted (members : List (String × Json)) (entries : List Json)
    (entry v : Json) (f : Field) (hf : decode (.object members) = .ok f)
    (hk : f.kind.hasOptions = true) (hentries : members.lookup "options" = some (.array entries))
    (he : entry ∈ entries) (hv : declared? entry = some v) (hchoice : IsChoice v) :
    (IsSpelledOut v → f.check (some v) = none) ∧
      (f.check (some v) = none ↔ ∃ o ∈ f.options, o.value = v.display) ∧
      (∀ e, f.check (some v) = some e → e.code = "invalid_option") ∧
      (FieldOption.scalarText? v = some v.display ↔ IsSpelledOut v) := by
  cases hf
  have hdeclared {s : String} := @mem_options_of_declared? entry v members entries hentries he hv s
  obtain ⟨haccepted, hrefused⟩ := check_choice hk hchoice
  obtain ⟨s, hs⟩ := exists_scalarText? hchoice
  have hsome : (ofMembers members).options ≠ [] := by
    obtain ⟨o, ho, -⟩ := hdeclared hs
    exact List.ne_nil_of_mem ho
  have hiff := haccepted.trans (or_iff_right hsome)
  have hspelled := FieldOption.scalarText?_eq_display_iff hchoice
  exact ⟨fun h => hiff.mpr (hdeclared (hspelled.mpr h)), hiff, hrefused, hspelled⟩

/-- A field with one option. -/
def sizeMembers (option : Json) : List (String × Json) :=
  [("name", .text "size"), ("label", .text "Size"), ("type", .text "select"),
    ("options", .array [option])]

theorem declared_choice_accepted_half :
    let half := Json.number (.float (Number.nearest false 1 2))
    IsSpelledOut half ∧ (ofMembers (sizeMembers half)).check (some half) = none := by
  intro half
  have halike : Number.compact (Number.nearest false 1 2) =
      Number.display (Number.nearest false 1 2) := by decide +kernel
  have hspelled : IsSpelledOut half := (Number.compact_eq_display_iff _).mp halike
  exact ⟨hspelled, (declared_choice_accepted (sizeMembers half) [half] half half _ rfl rfl rfl
    List.mem_cons_self rfl trivial).1 hspelled⟩

/-- The choice is refused by the field that declares it and nothing else. -/
def IsRefused (v : Json) : Prop :=
  IsChoice v ∧ (ofMembers (sizeMembers v)).kind = .select ∧
    (ofMembers (sizeMembers v)).check (some v) =
      some ⟨"size", "Size must be one of the listed options", "invalid_option"⟩

/-- A whole number that is written with a fraction, one of more than 53 bits and a small fraction
are refused by the fields that declare them. -/
theorem declared_choice_refused :
    IsRefused (.number (.float (Number.ofInt 1))) ∧
      IsRefused (.number (.whole 9007199254740993)) ∧
      IsRefused (.number (.float (Number.nearest false 1 10000000))) :=
  ⟨⟨trivial, rfl, by decide +kernel⟩, ⟨trivial, rfl, by decide +kernel⟩,
    ⟨trivial, rfl, by decide +kernel⟩⟩

end Field

end AppDef
