import AppDef.Proofs.Document.Field
import AppDef.Proofs.Document.Skeleton

namespace AppDef

open Json (Reads Slot decodeText decodeOptional decodeList listAt)

/-- The values that are the fields of a step. -/
def WizardStep.entries (v : Json) : List Json :=
  ((Json.membersOf? (Json.slotNames WizardStep.slots) v).map (listAt "fields")).getD []

/-- The values that are the fields of a section, in the order in which they are shown. -/
def Section.entries (v : Json) : List Json :=
  match v.asObject? with
  | none => []
  | some members =>
    match kindOf? members with
    | some .form => listAt "fields" members
    | some .calculator => listAt "inputs" members
    | some .wizard => (listAt "steps" members).flatMap WizardStep.entries
    | _ => []

theorem FormSection.reads_fields :
    Reads slots "fields" (decodeList Field.decode) FormSection.fields where
  known := by decide
  feeds := by simp +contextual [slots, Slot.of_feeds]

theorem CalculatorSection.reads_inputs :
    Reads slots "inputs" (decodeList Field.decode) CalculatorSection.inputs where
  known := by decide
  feeds := by simp +contextual [slots, Slot.of_feeds]

theorem WizardSection.reads_steps (source : Json.Source) :
    Reads (slots source) "steps" (decodeList (WizardStep.decode source)) WizardSection.steps where
  known := List.mem_cons_of_mem _ List.mem_cons_self
  feeds := by simp +contextual [slots, Slot.of_feeds]

theorem WizardStep.reads_fields :
    Reads slots "fields" (decodeList Field.decode) WizardStep.fields where
  known := by decide
  feeds := by simp +contextual [slots, Slot.of_feeds]

/-- A value and the field that it was decoded as. -/
def Field.From (v : Json) (f : Field) : Prop :=
  v.WellFormed ∧ Field.decode v = .ok f

theorem Field.From.canonical {v : Json} {f : Field} (h : Field.From v f) : f.Canonical := by
  obtain ⟨hv, hdecode⟩ := h
  obtain ⟨members, rfl, rfl⟩ := Field.decode_eq_ok.mp hdecode
  exact ofMembers_canonical hv

theorem Field.From.all_canonical {entries : List Json} {fields : List Field}
    (h : List.Forall₂ Field.From entries fields) : ∀ f ∈ fields, f.Canonical := by
  induction h with
  | nil => exact fun _ h => absurd h List.not_mem_nil
  | cons hf _ ih => exact List.forall_mem_cons.mpr ⟨hf.canonical, ih⟩

theorem WizardStep.fields_from {source : Json.Source} {v : Json} {s : WizardStep}
    (hv : v.WellFormed) (h : WizardStep.decode source v = .ok s) :
    List.Forall₂ Field.From (WizardStep.entries v) s.fields := by
  have hnames : (Json.slotNames slots).Nodup := by decide
  obtain ⟨members, hm, hok⟩ := (Json.decodeRecord_eq_ok hnames).mp h
  simp only [entries, hm, Option.map_some, Option.getD_some]
  exact reads_fields.list (hv.membersOf hnames hm) rfl hok

theorem Section.kindOf?_eq_some {members : List (String × Json)} {kind : SectionKind} :
    kindOf? members = some kind ↔ members.lookup "type" = some (.text kind.name) :=
  SectionKind.told_iff

theorem Document.decodeSection_eq_ok {v : Json} {s : Section} :
    decodeSection v = .ok s ↔ ∃ members kind, v = .object members ∧
      Section.kindOf? members = some kind ∧ Section.decodeAs kind members = .ok s := by
  cases v with
  | object members =>
    simp only [decodeSection]
    cases hkind : Section.kindOf? members <;> simp [hkind]
  | _ => simp [decodeSection, Json.mismatch]

/-- The fields of a decoded section are decoded from its entries, one by one and in order. -/
theorem Section.fields_from {v : Json} {s : Section} (hv : v.WellFormed)
    (h : Document.decodeSection v = .ok s) :
    List.Forall₂ Field.From (Section.entries v) s.fields := by
  obtain ⟨members, kind, rfl, hkind, h⟩ := Document.decodeSection_eq_ok.mp h
  simp only [entries, Json.asObject?, hkind]
  cases kind with
  | text =>
    obtain ⟨_, _, rfl⟩ := except_map_eq_ok.mp h
    exact .nil
  | form =>
    obtain ⟨_, hok, rfl⟩ := except_map_eq_ok.mp h
    exact FormSection.reads_fields.list hv rfl hok
  | calculator =>
    obtain ⟨_, hok, rfl⟩ := except_map_eq_ok.mp h
    exact CalculatorSection.reads_inputs.list hv rfl hok
  | wizard =>
    obtain ⟨_, hok, rfl⟩ := except_map_eq_ok.mp h
    have hsteps := (WizardSection.reads_steps .kept).list hv rfl hok
    exact List.rel_flatMap hsteps fun v s hs => WizardStep.fields_from hs.1 hs.2
  | result =>
    obtain ⟨_, _, rfl⟩ := except_map_eq_ok.mp h
    exact .nil

theorem decodeFields_encode {fields : List Field} (h : ∀ f ∈ fields, f.Canonical) :
    decodeList Field.decode (encodeFields fields) = .ok fields :=
  Json.decodeList_map fun f hf => (h f hf).decode_toJson

theorem WizardStep.decode_toJson (source : Json.Source) {s : WizardStep}
    (h : ∀ f ∈ s.fields, f.Canonical) : decode source s.toJson = .ok s := by
  have hfields := decodeFields_encode h
  obtain ⟨title, description, fields⟩ := s
  cases description <;>
    simp [decode, toJson, Json.decodeRecord, Json.setMember, Slot.of, slots, empty, hfields]

theorem Section.kindOf?_toJson (s : Section) :
    kindOf? (("type", .text s.kind.name) :: s.members) = some s.kind :=
  kindOf?_eq_some.mpr rfl

theorem Section.decode_toJson {s : Section} (h : ∀ f ∈ s.fields, f.Canonical) :
    Document.decodeSection s.toJson = .ok s := by
  refine Document.decodeSection_eq_ok.mpr ⟨_, s.kind, rfl, s.kindOf?_toJson, ?_⟩
  cases s with
  | text s =>
    obtain ⟨heading, body⟩ := s
    cases heading <;>
      simp [kind, decodeAs, members, headingMember, Json.setMember, Slot.of, TextSection.slots,
        TextSection.empty]
  | form s =>
    have hfields := decodeFields_encode h
    obtain ⟨heading, fields⟩ := s
    simp only [Section.fields] at hfields
    cases heading <;>
      simp [kind, decodeAs, members, headingMember, Json.setMember, Slot.of, FormSection.slots,
        FormSection.empty, hfields]
  | calculator s =>
    have hinputs := decodeFields_encode h
    obtain ⟨heading, inputs, formula, resultLabel, resultFormat⟩ := s
    simp only [Section.fields] at hinputs
    cases heading <;> cases resultFormat <;>
      simp [kind, decodeAs, members, headingMember, Json.setMember, Slot.of,
        CalculatorSection.slots, CalculatorSection.empty, hinputs]
  | wizard s =>
    have hsteps : decodeList (WizardStep.decode .kept) (.array (s.steps.map WizardStep.toJson)) =
        .ok s.steps := by
      refine Json.decodeList_map ?_
      intro step hstep
      exact step.decode_toJson .kept fun f hf => h f (List.mem_flatMap.mpr ⟨step, hstep, hf⟩)
    obtain ⟨heading, steps⟩ := s
    cases heading <;>
      simp [kind, decodeAs, members, headingMember, Json.setMember, Slot.of, WizardSection.slots,
        WizardSection.empty, hsteps]
  | result s =>
    obtain ⟨heading, template, showIf⟩ := s
    cases heading <;> cases showIf <;>
      simp [kind, decodeAs, members, headingMember, Json.setMember, Slot.of, ResultSection.slots,
        ResultSection.empty]

theorem encodeFields_wellFormed {fields : List Field} (h : ∀ f ∈ fields, f.Canonical) :
    (encodeFields fields).WellFormed :=
  Json.wellFormed_map fun f hf => (h f hf).toJson_wellFormed

theorem WizardStep.toJson_wellFormed {s : WizardStep} (h : ∀ f ∈ s.fields, f.Canonical) :
    s.toJson.WellFormed :=
  Json.wellFormed_of_written ["title", "description", "fields"] (by decide) <|
    .cons (.text _) <| .optional (fun _ _ => .text _) <| .cons (encodeFields_wellFormed h) .nil

theorem Section.toJson_wellFormed {s : Section} (h : ∀ f ∈ s.fields, f.Canonical) :
    s.toJson.WellFormed := by
  cases s with
  | text s =>
    exact Json.wellFormed_of_written ["type", "heading", "body"] (by decide) <|
      .cons (.text _) <| .optional (fun _ _ => .text _) <| .cons (.text _) .nil
  | form s =>
    exact Json.wellFormed_of_written ["type", "heading", "fields"] (by decide) <|
      .cons (.text _) <| .optional (fun _ _ => .text _) <| .cons (encodeFields_wellFormed h) .nil
  | calculator s =>
    refine Json.wellFormed_of_written
      ["type", "heading", "inputs", "formula", "resultLabel", "resultFormat"] (by decide) ?_
    simp only [members, headingMember, List.append_assoc]
    exact .cons (.text _) <| .optional (fun _ _ => .text _) <|
      .cons (encodeFields_wellFormed h) <| .cons (.text _) <| .cons (.text _) <|
      .last fun _ _ => .text _
  | wizard s =>
    have hsteps : (Json.array (s.steps.map WizardStep.toJson)).WellFormed := by
      refine Json.wellFormed_map ?_
      intro step hstep
      exact step.toJson_wellFormed fun f hf => h f (List.mem_flatMap.mpr ⟨step, hstep, hf⟩)
    exact Json.wellFormed_of_written ["type", "heading", "steps"] (by decide) <|
      .cons (.text _) <| .optional (fun _ _ => .text _) <| .cons hsteps .nil
  | result s =>
    refine Json.wellFormed_of_written ["type", "heading", "template", "showIf"] (by decide) ?_
    simp only [members, headingMember, List.append_assoc]
    exact .cons (.text _) <| .optional (fun _ _ => .text _) <| .cons (.text _) <|
      .last fun _ _ => .text _

theorem WizardStep.entries_toJson (s : WizardStep) :
    entries s.toJson = s.fields.map Field.toJson := by
  obtain ⟨title, description, fields⟩ := s
  cases description <;> rfl

/-- An encoded section has the encodings of its fields where a section has its fields. -/
theorem Section.entries_toJson (s : Section) : entries s.toJson = s.fields.map Field.toJson := by
  simp only [entries, toJson, Json.asObject?, kindOf?_toJson]
  cases s with
  | text s => rfl
  | form s =>
    obtain ⟨heading, fields⟩ := s
    cases heading <;> rfl
  | calculator s =>
    obtain ⟨heading, inputs, formula, resultLabel, resultFormat⟩ := s
    cases heading <;> rfl
  | wizard s =>
    obtain ⟨heading, steps⟩ := s
    have hsteps : (steps.map WizardStep.toJson).flatMap WizardStep.entries =
        (steps.flatMap (·.fields)).map Field.toJson := by
      simp only [List.flatMap_map, WizardStep.entries_toJson, List.map_flatMap]
    cases heading <;> exact hsteps
  | result s => rfl

end AppDef
