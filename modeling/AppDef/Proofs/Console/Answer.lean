import AppDef.Console.Answer
import AppDef.Proofs.Number.Encoding
import AppDef.Proofs.Text
import AppDef.Proofs.Validation

namespace AppDef

/-- What is left of a line that is more than blanks is not blank. -/
theorem Text.allBlank_trimmed {line : String} (h : trimmed line ≠ "") :
    allBlank (trimmed line) = false := by
  have hne : trim line.toList ≠ [] := by
    intro hnil
    exact h (by rw [trimmed, hnil, String.ofList_nil])
  obtain ⟨c, hc, hblank⟩ := (isCut_trim hne).first
  refine List.all_eq_false.mpr ⟨c, ?_, by simp [hblank]⟩
  rw [trimmed, String.toList_ofList]
  exact List.mem_of_mem_head? hc

namespace Answer

variable {f : Field} {line raw : String} {v : Json} {options : List FieldOption}

/-- What a line can be read as, by the kind of the field. -/
inductive Says (f : Field) (line : String) : Json → Prop
  | number {x : Float} (hk : f.kind = .number) (hx : x.isFinite = true) :
      Says f line (.ofComputed x)
  | flag (hk : f.kind = .checkbox) (ticked : Bool) : Says f line (.bool ticked)
  | choice {o : FieldOption} (hk : f.kind.hasOptions = true) (ho : o ∈ f.options) :
      Says f line (.text o.value)
  | text (hnumber : f.kind ≠ .number) (hcheckbox : f.kind ≠ .checkbox)
      (hoptions : f.kind.hasOptions = true → f.options = [])
      (hline : Text.allBlank (Text.trimmed line) = false) : Says f line (.text (Text.trimmed line))

theorem ofNumber_eq_value (h : ofNumber raw = .ok (.value v)) :
    ∃ x, x.isFinite = true ∧ v = .ofComputed x := by
  unfold ofNumber at h
  split at h
  · rename_i x _
    split at h
    · rename_i hx
      cases h
      exact ⟨x, hx, rfl⟩
    · cases h
  · cases h

theorem ofFlag_eq_value (h : ofFlag raw = .ok (.value v)) : ∃ ticked, v = .bool ticked := by
  simp only [ofFlag] at h
  split_ifs at h
  · cases h
    exact ⟨true, rfl⟩
  · cases h
    exact ⟨false, rfl⟩

/-- The option that a text stands for: the one at the place that it counts to, or else the first one
that it spells. -/
def chosen? (options : List FieldOption) (raw : String) : Option FieldOption :=
  (byPlace? options raw).or (bySpelling? options raw)

theorem ofOption_eq_value_iff :
    ofOption options raw = .ok (.value v) ↔
      ∃ o, chosen? options raw = some o ∧ v = .text o.value := by
  unfold ofOption chosen?
  split
  · rename_i o ho
    simp [ho, eq_comm]
  · rename_i ho
    simp [ho]

theorem mem_of_chosen? {o : FieldOption} (h : chosen? options raw = some o) : o ∈ options := by
  rcases Option.or_eq_some_iff.mp h with hplace | ⟨-, hspelling⟩
  · unfold byPlace? at hplace
    split at hplace
    · exact List.mem_of_getElem? hplace
    · cases hplace
  · exact List.mem_of_find?_eq_some hspelling

theorem says_of_read (h : read f line = .ok (.value v)) : Says f line v := by
  simp only [read] at h
  split_ifs at h with hback hempty hnumber hcheckbox hoptions
  · cases h
  · cases h
  · obtain ⟨x, hx, rfl⟩ := ofNumber_eq_value h
    exact .number hnumber hx
  · obtain ⟨ticked, rfl⟩ := ofFlag_eq_value h
    exact .flag hcheckbox ticked
  · obtain ⟨o, ho, rfl⟩ := ofOption_eq_value_iff.mp h
    exact .choice (Bool.and_eq_true_iff.mp hoptions).1 (mem_of_chosen? ho)
  · cases h
    refine .text hnumber hcheckbox (by simpa using hoptions) (Text.allBlank_trimmed ?_)
    simpa using hempty

end Answer

theorem Scalar.ofJson_ofComputed {x : Float} (hx : x.isFinite = true) :
    ∃ y, ofJson (.ofComputed x) = .number y ∧ y.isFinite = true := by
  unfold Json.ofComputed
  split
  · rename_i i hi
    have hless := Number.natAbs_lt_of_whole? hi
    obtain ⟨p, hp, -⟩ := Number.kind_ofInt (i := i) (by omega)
    exact ⟨Number.ofInt i, rfl, Number.isFinite_iff.mpr ⟨p, hp⟩⟩
  · rw [if_pos hx]
    exact ⟨x, rfl, hx⟩

namespace Field

variable {f : Field} {e : FieldError}

/-- A number that is read can only be too small or too large. -/
theorem code_of_check_number (hk : f.kind = .number) {x : Float} (hx : x.isFinite = true)
    (h : f.check (some (.ofComputed x)) = some e) : e.code = "min" ∨ e.code = "max" := by
  obtain ⟨y, hy, hfinite⟩ := Scalar.ofJson_ofComputed hx
  have hanswered : Json.unanswered (some (.ofComputed x)) = false := by
    unfold Json.ofComputed
    split
    · rfl
    · rw [if_pos hx]
      rfl
  obtain ⟨w, hw, rfl⟩ := check_eq_some_iff.mp h
  simp only [violation?, answerViolation?, numberViolation?, hk, hanswered, hy, Scalar.asNumber?,
    Option.filter, hfinite, reduceCtorEq, if_false, if_true, Bool.false_eq_true, Option.bind_some,
    Option.or_eq_some_iff, Option.map_eq_some_iff] at hw
  rcases hw with ⟨bound, -, rfl⟩ | ⟨-, bound, -, rfl⟩
  · exact .inl rfl
  · exact .inr rfl

theorem check_flag (hk : f.kind = .checkbox) (ticked : Bool) :
    f.check (some (.bool ticked)) =
      if f.required && !ticked then some (f.report .required) else none := by
  simp only [check, violation?, if_pos hk, Option.any_some, Scalar.ofJson, Scalar.truthy]
  cases f.required <;> cases ticked <;> rfl

/-- An option is refused only if it is blank. -/
theorem check_option (hk : f.kind.hasOptions = true) {o : FieldOption} (ho : o ∈ f.options) :
    f.check (some (.text o.value)) =
      if f.required && Text.allBlank o.value then some (f.report .required) else none := by
  have hkind := FieldKind.ne_of_hasOptions hk
  have hlisted : f.optionViolation? (.text o.value) = none := by
    refine if_pos ?_
    simp only [Bool.or_eq_true, List.any_eq_true]
    exact .inr ⟨o, ho, by simp [Json.display]⟩
  have hblank : Json.unanswered (some (.text o.value)) = Text.allBlank o.value := rfl
  simp only [check, violation?, answerViolation?, hkind, hk, hblank, hlisted, if_false, if_true,
    Option.bind_some]
  cases Text.allBlank o.value <;> cases f.required <;> rfl

/-- A text that is read can only be of the wrong form. -/
theorem code_of_check_text (hnumber : f.kind ≠ .number) (hcheckbox : f.kind ≠ .checkbox)
    (hoptions : f.kind.hasOptions = true → f.options = []) {s : String}
    (hs : Text.allBlank s = false) (h : f.check (some (.text s)) = some e) :
    e.code = "invalid_email" ∨ e.code = "pattern_mismatch" := by
  have hanswered : Json.unanswered (some (.text s)) = false := hs
  obtain ⟨w, hw, rfl⟩ := check_eq_some_iff.mp h
  simp only [violation?, answerViolation?, hnumber, hcheckbox, hanswered, if_false,
    Option.bind_some, Bool.false_eq_true] at hw
  split_ifs at hw with hk htext
  · simp [optionViolation?, hoptions hk] at hw
  · simp only [textViolation?] at hw
    split_ifs at hw
    · cases hw
      exact .inl rfl
    · cases hw
      exact .inr rfl

end Field

namespace Answer

variable {f : Field} {line : String} {v : Json}

theorem Says.code_ne (h : Says f line v) {e : FieldError} (he : f.check (some v) = some e) :
    e.code ≠ "not_a_number" ∧ e.code ≠ "invalid_option" := by
  cases h with
  | number hk hx =>
    rcases Field.code_of_check_number hk hx he with hc | hc <;> simp [hc]
  | flag hk ticked =>
    rw [Field.check_flag hk] at he
    split at he <;> cases he
    simp [Field.report, Violation.code]
  | choice hk ho =>
    rw [Field.check_option hk ho] at he
    split at he <;> cases he
    simp [Field.report, Violation.code]
  | text hnumber hcheckbox hoptions hline =>
    rcases Field.code_of_check_text hnumber hcheckbox hoptions hline he with hc | hc <;> simp [hc]

/-- Numbers and texts that are read always count as answers. -/
theorem Says.lacking_iff (h : Says f line v) :
    (∃ e, f.check (some v) = some e ∧ e.code = "required") ↔ f.required = true ∧
      (f.kind = .checkbox ∧ v = .bool false ∨ f.kind.hasOptions = true ∧
        ∃ o ∈ f.options, Text.allBlank o.value = true ∧ v = .text o.value) := by
  cases h with
  | number hk hx =>
    refine iff_of_false ?_ (by simp [hk, FieldKind.hasOptions])
    rintro ⟨e, he, hrequired⟩
    rcases Field.code_of_check_number hk hx he with hc | hc <;> simp [hc] at hrequired
  | flag hk ticked =>
    rw [Field.check_flag hk]
    cases hr : f.required <;> cases ticked <;>
      simp [hk, FieldKind.hasOptions, Field.report, Violation.code]
  | @choice o hk ho =>
    have hcheckbox : f.kind ≠ .checkbox := (FieldKind.ne_of_hasOptions hk).1
    have hblank : (∃ b ∈ f.options,
        Text.allBlank b.value = true ∧ Json.text o.value = .text b.value) ↔
          Text.allBlank o.value = true := by
      constructor
      · rintro ⟨b, -, hb, he⟩
        rwa [Json.text.inj he]
      · exact fun hb => ⟨o, ho, hb, rfl⟩
    rw [Field.check_option hk ho, hblank]
    cases hr : f.required <;> cases hb : Text.allBlank o.value <;>
      simp [hk, hcheckbox, Field.report, Violation.code]
  | text hnumber hcheckbox hoptions hline =>
    refine iff_of_false ?_ ?_
    · rintro ⟨e, he, hrequired⟩
      rcases Field.code_of_check_text hnumber hcheckbox hoptions hline he with hc | hc <;>
        simp [hc] at hrequired
    · rintro ⟨-, ⟨hk, -⟩ | ⟨hk, o, ho, -⟩⟩
      · exact hcheckbox hk
      · rw [hoptions hk] at ho
        cases ho

/-- What a line is read as is never refused for its type, and counts as no answer only if it leaves
a checkbox unticked or chooses a blank option. -/
theorem read_value_checked (h : read f line = .ok (.value v)) :
    (∀ e, f.check (some v) = some e → e.code ≠ "not_a_number" ∧ e.code ≠ "invalid_option") ∧
    ((∃ e, f.check (some v) = some e ∧ e.code = "required") ↔ f.required = true ∧
      (f.kind = .checkbox ∧ v = .bool false ∨ f.kind.hasOptions = true ∧
        ∃ o ∈ f.options, Text.allBlank o.value = true ∧ v = .text o.value)) := by
  have hsays : Says f line v := says_of_read h
  exact ⟨fun e he => hsays.code_ne he, hsays.lacking_iff⟩

/-- A required checkbox. -/
def terms : Field :=
  ⟨"terms", "Terms", .checkbox, none, true, [], none, none, {}⟩

theorem read_value_checked_terms : ∃ v, read terms "No\n" = .ok (.value v) ∧
    ∃ e, terms.check (some v) = some e ∧ e.code = "required" := by
  have hread : read terms "No\n" = .ok (.value (.bool false)) := rfl
  exact ⟨_, hread, (read_value_checked hread).2.mpr ⟨rfl, .inl ⟨rfl, rfl⟩⟩⟩

end Answer

/-- The text is the value or the label of the option, up to the case of letters. -/
def FieldOption.IsSpelled (o : FieldOption) (raw : String) : Prop :=
  Text.sameLetters o.value raw = true ∨ Text.sameLetters o.label raw = true

theorem FieldOption.isSpelled_value (o : FieldOption) : o.IsSpelled o.value :=
  .inl (beq_self_eq_true _)

namespace Answer

variable {f : Field} {options : List FieldOption} {o : FieldOption} {raw line value : String}

/-- The option that a text chooses: the one at the place that it counts to or, if it counts to none,
the first one that it spells. -/
inductive Chooses (options : List FieldOption) (raw : String) : FieldOption → Prop
  | place {i : Nat} {o : FieldOption} (hcount : count? raw = some (i + 1))
      (ho : options[i]? = some o) : Chooses options raw o
  | spelling {before after : List FieldOption} {o : FieldOption}
      (hplace : ∀ i, count? raw = some (i + 1) → options.length ≤ i)
      (hoptions : options = before ++ o :: after) (hbefore : ∀ b ∈ before, ¬ b.IsSpelled raw)
      (ho : o.IsSpelled raw) : Chooses options raw o

theorem byPlace?_eq_some_iff :
    byPlace? options raw = some o ↔ ∃ i, count? raw = some (i + 1) ∧ options[i]? = some o := by
  unfold byPlace?
  split
  · rename_i i hi
    simp [hi]
  · rename_i hnone
    refine iff_of_false (by simp) ?_
    rintro ⟨i, hi, -⟩
    exact hnone i hi

theorem byPlace?_eq_none_iff :
    byPlace? options raw = none ↔ ∀ i, count? raw = some (i + 1) → options.length ≤ i := by
  simp only [Option.eq_none_iff_forall_ne_some, ne_eq, byPlace?_eq_some_iff, not_exists, not_and]
  constructor
  · intro h i hi
    by_contra hlt
    exact h _ i hi (List.getElem?_eq_getElem (Nat.lt_of_not_le hlt))
  · intro h o i hi ho
    rw [List.getElem?_eq_none (h i hi)] at ho
    cases ho

theorem bySpelling?_eq_some_iff : bySpelling? options raw = some o ↔ o.IsSpelled raw ∧
    ∃ before after, options = before ++ o :: after ∧ ∀ b ∈ before, ¬ b.IsSpelled raw := by
  simp [bySpelling?, List.find?_eq_some_iff_append, FieldOption.IsSpelled]

theorem chosen?_eq_some_iff : chosen? options raw = some o ↔ Chooses options raw o := by
  rw [chosen?, Option.or_eq_some_iff, byPlace?_eq_some_iff, byPlace?_eq_none_iff,
    bySpelling?_eq_some_iff]
  constructor
  · rintro (⟨i, hi, ho⟩ | ⟨hplace, ho, before, after, hoptions, hbefore⟩)
    · exact .place hi ho
    · exact .spelling hplace hoptions hbefore ho
  · intro h
    cases h with
    | place hi ho => exact .inl ⟨_, hi, ho⟩
    | spelling hplace hoptions hbefore ho => exact .inr ⟨hplace, ho, _, _, hoptions, hbefore⟩

/-- A text that spells an option chooses one. -/
theorem exists_chosen? (ho : o ∈ options) (hraw : o.IsSpelled raw) :
    ∃ c, chosen? options raw = some c := by
  have hfound : (bySpelling? options raw).isSome = true :=
    List.find?_isSome.mpr ⟨o, ho, by simpa [FieldOption.IsSpelled] using hraw⟩
  refine Option.isSome_iff_exists.mp ?_
  rw [chosen?, Option.isSome_or, hfound, Bool.or_true]

theorem read_of_options (hk : f.kind.hasOptions = true) (hoptions : f.options ≠ [])
    (hline : Text.trimmed line ≠ "") (hback : Text.trimmed line ≠ backCommand) :
    read f line = ofOption f.options (Text.trimmed line) := by
  have hkind := FieldKind.ne_of_hasOptions hk
  simp [read, hback, hline, hkind, hk, hoptions]

/-- No other value than its own is chosen by a value: neither does it count to the place of one, nor
does it spell an option before the first one of this value. -/
structure IsUnclaimed (options : List FieldOption) (value : String) : Prop where
  place : ∀ i o, count? value = some (i + 1) → options[i]? = some o → o.value = value
  spelling : (∀ i, count? value = some (i + 1) → options.length ≤ i) →
    ∃ before o after, options = before ++ o :: after ∧ o.value = value ∧
      ∀ b ∈ before, ¬ b.IsSpelled value

theorem isUnclaimed_iff :
    IsUnclaimed options value ↔ ∃ o, chosen? options value = some o ∧ o.value = value := by
  simp only [chosen?_eq_some_iff]
  constructor
  · intro h
    by_cases hplace : ∀ i, count? value = some (i + 1) → options.length ≤ i
    · obtain ⟨before, o, after, hoptions, rfl, hbefore⟩ := h.spelling hplace
      exact ⟨o, .spelling hplace hoptions hbefore o.isSpelled_value, rfl⟩
    · simp only [not_forall, not_le] at hplace
      obtain ⟨i, hi, hlt⟩ := hplace
      have ho := List.getElem?_eq_getElem hlt
      exact ⟨options[i], .place hi ho, h.place i _ hi ho⟩
  · rintro ⟨o, ho, rfl⟩
    cases ho with
    | @place i _ hi ho =>
      constructor
      · intro j c hj hc
        cases Option.some.inj (hi.symm.trans hj)
        rw [ho] at hc
        cases hc
        rfl
      · intro hplace
        rw [List.getElem?_eq_none (hplace i hi)] at ho
        cases ho
    | spelling hplace hoptions hbefore ho =>
      constructor
      · intro i c hi hc
        rw [List.getElem?_eq_none (hplace i hi)] at hc
        cases hc
      · exact fun _ => ⟨_, o, _, hoptions, rfl, hbefore⟩

/-- A line that is the value of an option chooses the option whose place it counts to, or else the
first option that it spells. So it is read as this very value unless another one claims it. -/
theorem option_read_by_value (hk : f.kind.hasOptions = true) (ho : o ∈ f.options)
    (hline : Text.trimmed line = o.value) (hne : o.value ≠ "") (hback : o.value ≠ backCommand) :
    (∃ c ∈ f.options, Chooses f.options o.value c ∧ read f line = .ok (.value (.text c.value))) ∧
      (read f line = .ok (.value (.text o.value)) ↔ IsUnclaimed f.options o.value) := by
  have hread : read f line = ofOption f.options o.value := by
    rw [read_of_options hk (List.ne_nil_of_mem ho) (hline ▸ hne) (hline ▸ hback), hline]
  rw [hread, isUnclaimed_iff]
  constructor
  · obtain ⟨c, hc⟩ := exists_chosen? ho o.isSpelled_value
    exact ⟨c, mem_of_chosen? hc, chosen?_eq_some_iff.mp hc,
      ofOption_eq_value_iff.mpr ⟨c, hc, rfl⟩⟩
  · rw [ofOption_eq_value_iff]
    refine exists_congr fun c => and_congr_right fun _ => ?_
    rw [Json.text.injEq, eq_comm]

/-- A choice of a size. -/
def sizes (options : List FieldOption) : Field :=
  ⟨"size", "Size", .select, none, false, options, none, none, {}⟩

theorem option_read_by_value_large :
    IsUnclaimed (sizes [.plain "small", .labeled "10" "large"]).options "large" ∧
      read (sizes [.plain "small", .labeled "10" "large"]) "large\n" =
        .ok (.value (.text "large")) := by
  have hunclaimed : IsUnclaimed (sizes [.plain "small", .labeled "10" "large"]).options "large" :=
    isUnclaimed_iff.mpr ⟨.labeled "10" "large", rfl, rfl⟩
  have hlarge : .labeled "10" "large" ∈
      (sizes [.plain "small", .labeled "10" "large"]).options := by decide
  have hline : Text.trimmed "large\n" = "large" := rfl
  have hread := option_read_by_value rfl hlarge hline (by decide) (by decide)
  exact ⟨hunclaimed, hread.2.mpr hunclaimed⟩

/-- The value of an option, typed as it is, is read as the value of another one. -/
def IsMisread (options : List FieldOption) (value other : String) : Prop :=
  (∃ o ∈ (sizes options).options, o.value = value) ∧ (sizes options).kind.hasOptions = true ∧
    value ≠ "" ∧ Text.trimmed value = value ∧ value ≠ backCommand ∧ other ≠ value ∧
      read (sizes options) value = .ok (.value (.text other))

/-- A value that counts to another place, one that is spelled like an earlier value and one that is
an earlier label are read as other values. -/
theorem values_misread : IsMisread [.plain "2", .plain "1"] "2" "1" ∧
    IsMisread [.plain "Pro", .plain "pro"] "pro" "Pro" ∧
      IsMisread [.labeled "large" "small", .plain "large"] "large" "small" :=
  ⟨⟨⟨.plain "2", by decide, rfl⟩, rfl, by decide, rfl, by decide, by decide, rfl⟩,
    ⟨⟨.plain "pro", by decide, rfl⟩, rfl, by decide, rfl, by decide, by decide, rfl⟩,
    ⟨⟨.plain "large", by decide, rfl⟩, rfl, by decide, rfl, by decide, by decide, rfl⟩⟩

end Answer

end AppDef
