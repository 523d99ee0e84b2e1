import AppDef.Proofs.Document.Section

namespace AppDef

open Json (Slot Attributes IsText IsFlag IsObject OrNull ListOf MapOf RecordOf StrictRecordOf
  Conforms decodeText_takes decodeFlag_takes decodeOptional_takes decodeList_takes
  decodeMembers_takes)

def Meta.attributes : Attributes :=
  [("title", IsText), ("slug", IsText), ("description", IsText), ("icon", OrNull IsText)]

def Crm.attributes : Attributes :=
  [("source", IsText), ("tags", ListOf IsText), ("workflowId", OrNull IsText),
    ("fieldMap", MapOf IsText)]

def Settings.attributes : Attributes :=
  [("showHeader", IsFlag), ("showFooter", IsFlag), ("submitButtonText", IsText),
    ("successMessage", IsText), ("redirectUrl", OrNull IsText)]

def WizardStep.attributes : Attributes :=
  [("title", IsText), ("description", OrNull IsText), ("fields", ListOf IsObject)]

/-- What the sections of a kind have besides their kind. -/
def SectionKind.attributes (kind : SectionKind) : Attributes :=
  ("heading", OrNull IsText) ::
    match kind with
    | .text => [("body", IsText)]
    | .form => [("fields", ListOf IsObject)]
    | .calculator => [("inputs", ListOf IsObject), ("formula", IsText), ("resultLabel", IsText),
        ("resultFormat", OrNull IsText)]
    | .wizard => [("steps", ListOf (RecordOf WizardStep.attributes))]
    | .result => [("template", IsText), ("showIf", OrNull IsText)]

/-- An object that tells its kind and has the attributes of that kind. -/
def IsSection (v : Json) : Prop :=
  ∃ members, ∃ kind : SectionKind, v = .object members ∧
    members.lookup "type" = some (.text kind.name) ∧ Conforms kind.attributes members

def Document.attributes : Attributes :=
  [("meta", StrictRecordOf Meta.attributes Document.requiredTexts), ("sections", ListOf IsSection),
    ("crm", OrNull (RecordOf Crm.attributes)), ("settings", OrNull (RecordOf Settings.attributes))]

theorem Field.decode_takes : Json.Decoder.Takes Field.decode IsObject := by
  intro v
  cases v <;> simp [decode, Json.mismatch, IsObject]

theorem Meta.decode_takes :
    Json.Decoder.Takes Meta.decode (StrictRecordOf attributes Document.requiredTexts) :=
  Json.decodeStrict_takes
    (.cons (Slot.of_takes decodeText_takes _ _) <| .cons (Slot.of_takes decodeText_takes _ _) <|
      .cons (Slot.of_takes decodeText_takes _ _) <|
      .cons (Slot.of_takes (decodeOptional_takes decodeText_takes) _ _) .nil)
    (by decide) _ _ _ _

theorem Crm.decode_takes : Json.Decoder.Takes Crm.decode (RecordOf attributes) :=
  Json.decodeRecord_takes
    (.cons (Slot.of_takes decodeText_takes _ _) <|
      .cons (Slot.of_takes (decodeList_takes decodeText_takes) _ _) <|
      .cons (Slot.of_takes (decodeOptional_takes decodeText_takes) _ _) <|
      .cons (Slot.of_takes (decodeMembers_takes decodeText_takes) _ _) .nil)
    (by decide) _ _ _

theorem Settings.decode_takes : Json.Decoder.Takes Settings.decode (RecordOf attributes) :=
  Json.decodeRecord_takes
    (.cons (Slot.of_takes decodeFlag_takes _ _) <| .cons (Slot.of_takes decodeFlag_takes _ _) <|
      .cons (Slot.of_takes decodeText_takes _ _) <| .cons (Slot.of_takes decodeText_takes _ _) <|
      .cons (Slot.of_takes (decodeOptional_takes decodeText_takes) _ _) .nil)
    (by decide) _ _ _

theorem WizardStep.decode_takes (source : Json.Source) :
    Json.Decoder.Takes (WizardStep.decode source) (RecordOf attributes) :=
  Json.decodeRecord_takes
    (.cons (Slot.of_takes decodeText_takes _ _) <|
      .cons (Slot.of_takes (decodeOptional_takes decodeText_takes) _ _) <|
      .cons (Slot.of_takes (decodeList_takes Field.decode_takes) _ _) .nil)
    (by decide) _ _ _

theorem isSection_object_iff {members : List (String × Json)} :
    IsSection (.object members) ↔
      ∃ kind, Section.kindOf? members = some kind ∧ Conforms kind.attributes members := by
  simp only [IsSection, Section.kindOf?_eq_some]
  constructor
  · rintro ⟨_, kind, ⟨⟩, h⟩
    exact ⟨kind, h⟩
  · rintro ⟨kind, h⟩
    exact ⟨members, kind, rfl, h⟩

theorem SectionKind.decodeAs_isOk (kind : SectionKind) (members : List (String × Json)) :
    (∃ s, Section.decodeAs kind members = .ok s) ↔ Conforms kind.attributes members := by
  have hheading := decodeOptional_takes decodeText_takes
  have hfields := decodeList_takes Field.decode_takes
  cases kind with
  | text =>
    refine except_map_isOk.trans (Json.decodeMembersInto_isOk ?_ members _)
    exact .cons (Slot.of_takes hheading _ _) (.cons (Slot.of_takes decodeText_takes _ _) .nil)
  | form =>
    refine except_map_isOk.trans (Json.decodeMembersInto_isOk ?_ members _)
    exact .cons (Slot.of_takes hheading _ _) (.cons (Slot.of_takes hfields _ _) .nil)
  | calculator =>
    refine except_map_isOk.trans (Json.decodeMembersInto_isOk ?_ members _)
    exact .cons (Slot.of_takes hheading _ _) <| .cons (Slot.of_takes hfields _ _) <|
      .cons (Slot.of_takes decodeText_takes _ _) <| .cons (Slot.of_takes decodeText_takes _ _) <|
      .cons (Slot.of_takes (decodeOptional_takes decodeText_takes) _ _) .nil
  | wizard =>
    refine except_map_isOk.trans (Json.decodeMembersInto_isOk ?_ members _)
    exact .cons (Slot.of_takes hheading _ _) <|
      .cons (Slot.of_takes (decodeList_takes (WizardStep.decode_takes .kept)) _ _) .nil
  | result =>
    refine except_map_isOk.trans (Json.decodeMembersInto_isOk ?_ members _)
    exact .cons (Slot.of_takes hheading _ _) <| .cons (Slot.of_takes decodeText_takes _ _) <|
      .cons (Slot.of_takes (decodeOptional_takes decodeText_takes) _ _) .nil

namespace Document

theorem decodeSection_takes : Json.Decoder.Takes decodeSection IsSection := by
  intro v
  simp only [decodeSection_eq_ok]
  constructor
  · rintro ⟨s, members, kind, rfl, hkind, hs⟩
    exact isSection_object_iff.mpr ⟨kind, hkind, (kind.decodeAs_isOk members).mp ⟨s, hs⟩⟩
  · rintro ⟨members, kind, rfl, htype, hconforms⟩
    obtain ⟨s, hs⟩ := (kind.decodeAs_isOk members).mpr hconforms
    exact ⟨s, members, kind, rfl, Section.kindOf?_eq_some.mpr htype, hs⟩

theorem slots_take : List.Forall₂ Slot.Takes slots attributes :=
  .cons (Slot.of_takes Meta.decode_takes _ _) <|
    .cons (Slot.of_takes (decodeList_takes decodeSection_takes) _ _) <|
    .cons (Slot.of_takes (decodeOptional_takes Crm.decode_takes) _ _) <|
    .cons (Slot.of_takes (decodeOptional_takes Settings.decode_takes) _ _) .nil

/-- An identity with its three texts, a list of sections, and all parts of their shapes. -/
structure Acceptable (raw : Json) : Prop where
  identified : Identified raw
  listed : ∃ sections, raw.member? "sections" = some (.array sections)
  conforms : ∃ root, raw = .object root ∧ Conforms attributes root

theorem Acceptable.skeleton {raw : Json} (h : Acceptable raw) : Skeleton raw := by
  obtain ⟨hidentified, ⟨sections, hlist⟩, root, rfl, hconforms⟩ := h
  refine ⟨hidentified, sections, hlist, ?_⟩
  obtain ⟨_, hitems, hsections⟩ := hconforms _ (Members.mem_of_lookup hlist) _ rfl
  cases hitems
  intro s hs
  obtain ⟨members, kind, rfl, hkind, _⟩ := hsections s hs
  exact ⟨kind, hkind⟩

theorem ofJson_isOk (raw : Json) : (∃ d, ofJson raw = .ok d) ↔ Acceptable raw := by
  simp only [ofJson_eq_ok]
  constructor
  · rintro ⟨d, hskeleton, root, rfl, hd⟩
    obtain ⟨hidentified, sections, hlist, _⟩ := hskeleton
    exact ⟨hidentified, ⟨sections, hlist⟩, root, rfl,
      (Json.decodeMembersInto_isOk slots_take root empty).mp ⟨d, hd⟩⟩
  · intro h
    obtain ⟨root, rfl, hconforms⟩ := h.conforms
    obtain ⟨d, hd⟩ := (Json.decodeMembersInto_isOk slots_take root empty).mpr hconforms
    exact ⟨d, h.skeleton, root, rfl, hd⟩

end Document

end AppDef
