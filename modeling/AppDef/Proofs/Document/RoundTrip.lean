import AppDef.Proofs.Document.Section

namespace AppDef

open Json (Reads Slot decodeText decodeText_text decodeOptional decodeList decodeMembers listAt)

theorem Meta.decode_toJson (m : Meta) : Meta.decode m.toJson = .ok m := by
  obtain ⟨title, slug, description, icon⟩ := m
  cases icon <;>
    simp [decode, toJson, Json.decodeStrict, Json.decodeRecord, Json.setMember, Slot.of, slots,
      empty, Json.isGiven, Members.lookup_cons]

theorem Crm.tagSet_keys (tags : Dict Unit) : tagSet tags.keys = tags := by
  have hentries : tags.keys.map (fun tag => (tag, ())) = tags.entries := by
    simp [Dict.keys, Function.comp_def]
  rw [tagSet, hentries, Dict.ofList_entries]

theorem Crm.decode_toJson (c : Crm) : Crm.decode c.toJson = .ok c := by
  have htags : decodeList decodeText (.array (c.tags.keys.map .text)) = .ok c.tags.keys :=
    Json.decodeList_map fun _ _ => rfl
  have hset := Crm.tagSet_keys c.tags
  have hmap : decodeMembers decodeText (.object (c.fieldMap.map fun e => (e.1, .text e.2))) =
      .ok c.fieldMap :=
    Json.decodeMembers_map fun _ _ => rfl
  obtain ⟨source, tags, workflowId, fieldMap⟩ := c
  cases workflowId <;>
    simp [decode, toJson, Json.decodeRecord, Json.setMember, Slot.of, slots, empty, htags, hset,
      hmap]

theorem Settings.decode_toJson (s : Settings) : Settings.decode s.toJson = .ok s := by
  obtain ⟨showHeader, showFooter, submitButtonText, successMessage, redirectUrl⟩ := s
  cases redirectUrl <;>
    simp [decode, toJson, Json.decodeRecord, Json.setMember, Slot.of, slots, default]

theorem Meta.toJson_wellFormed (m : Meta) : m.toJson.WellFormed :=
  Json.wellFormed_of_written ["title", "slug", "description", "icon"] (by decide) <|
    .cons (.text _) <| .cons (.text _) <| .cons (.text _) <| .last fun _ _ => .text _

theorem Crm.toJson_wellFormed {c : Crm} (h : Members.Distinct c.fieldMap) :
    c.toJson.WellFormed := by
  have hmap : (Json.object (c.fieldMap.map fun e => (e.1, .text e.2))).WellFormed := by
    refine .object ?_ ?_
    · simpa [Members.Distinct, Function.comp_def] using h
    · exact List.forall_mem_map.mpr fun _ _ => .text _
  exact Json.wellFormed_of_written ["source", "tags", "workflowId", "fieldMap"] (by decide) <|
    .cons (.text _) <| .cons (Json.wellFormed_map fun _ _ => .text _) <|
    .optional (fun _ _ => .text _) <| .cons hmap .nil

theorem Settings.toJson_wellFormed (s : Settings) : s.toJson.WellFormed :=
  Json.wellFormed_of_written
    ["showHeader", "showFooter", "submitButtonText", "successMessage", "redirectUrl"] (by decide) <|
    .cons (.bool _) <| .cons (.bool _) <| .cons (.text _) <| .cons (.text _) <|
    .last fun _ _ => .text _

theorem Meta.reads_title : Reads slots "title" decodeText Meta.title where
  known := by decide
  feeds := by simp +contextual [slots, Slot.of_feeds]

theorem Meta.reads_slug : Reads slots "slug" decodeText Meta.slug where
  known := by decide
  feeds := by simp +contextual [slots, Slot.of_feeds]

theorem Meta.reads_description : Reads slots "description" decodeText Meta.description where
  known := by decide
  feeds := by simp +contextual [slots, Slot.of_feeds]

theorem Meta.members_of_decode {identity : List (String × Json)} {m : Meta}
    (h : decode (.object identity) = .ok m) :
    Json.decodeMembersInto slots empty identity = .ok m := by
  simp only [decode, Json.decodeStrict, except_bind_eq_ok] at h
  obtain ⟨m', hm, h⟩ := h
  split at h
  · cases h
  · cases h
    exact hm

/-- A text that is not blank in a value is not blank in the identity that it decodes to. -/
theorem Meta.filled {name : String} {get : Meta → String} (h : Reads slots name decodeText get)
    {identity : List (String × Json)} (hdistinct : Members.Distinct identity) {m : Meta}
    (hm : Json.decodeMembersInto slots empty identity = .ok m)
    (hfilled : Document.Filled identity name) : Text.allBlank (get m) = false := by
  obtain ⟨s, hlookup, hs⟩ := hfilled
  have hread := h.decodeMembersInto hdistinct hm
  simp only [hlookup, Option.elim_some, decodeText_text, Except.ok.injEq] at hread
  exact hread ▸ hs

theorem Crm.reads_fieldMap : Reads slots "fieldMap" (decodeMembers decodeText) Crm.fieldMap where
  known := by decide
  feeds := by simp +contextual [slots, Slot.of_feeds]

theorem Crm.distinct_fieldMap {v : Json} (hv : v.WellFormed) {c : Crm} (h : decode v = .ok c) :
    Members.Distinct c.fieldMap := by
  have hnames : (Json.slotNames slots).Nodup := by decide
  obtain ⟨members, hm, hok⟩ := (Json.decodeRecord_eq_ok hnames).mp h
  have hwf := hv.membersOf hnames hm
  have hread := reads_fieldMap.decodeMembersInto hwf.distinct hok
  cases hlookup : members.lookup "fieldMap" with
  | none =>
    simp only [hlookup, Option.elim_none, Except.ok.injEq] at hread
    rw [← hread]
    exact List.nodup_nil
  | some map =>
    simp only [hlookup, Option.elim_some] at hread
    cases map with
    | object entries =>
      have hdistinct := (hwf.member hlookup).distinct
      rwa [Members.Distinct, Json.decodeMembers_names hread] at hdistinct
    | _ => cases hread

namespace Document

theorem reads_identity : Reads slots "meta" Meta.decode Document.identity where
  known := by decide
  feeds := by simp +contextual [slots, Slot.of_feeds]

theorem reads_sections : Reads slots "sections" (decodeList decodeSection) Document.sections where
  known := by decide
  feeds := by simp +contextual [slots, Slot.of_feeds]

theorem reads_crm : Reads slots "crm" (decodeOptional Crm.decode) Document.crm where
  known := by decide
  feeds := by simp +contextual [slots, Slot.of_feeds]

/-- What holds of every decoded document, and makes it one that is decoded from its encoding. -/
structure Stable (d : Document) : Prop where
  title : Text.allBlank d.identity.title = false
  slug : Text.allBlank d.identity.slug = false
  description : Text.allBlank d.identity.description = false
  fields : ∀ f ∈ d.fields, f.Canonical
  fieldMap : ∀ c, d.crm = some c → Members.Distinct c.fieldMap

/-- The values that are the fields of a document, in order. -/
def entries (raw : Json) : List Json :=
  (listAt "sections" (raw.asObject?.getD [])).flatMap Section.entries

theorem fields_from {root : List (String × Json)} (hroot : (Json.object root).WellFormed)
    {d : Document} (h : Json.decodeMembersInto slots empty root = .ok d) :
    List.Forall₂ Field.From (entries (.object root)) d.fields := by
  have hsections := reads_sections.list hroot rfl h
  exact List.rel_flatMap hsections fun v s hs => Section.fields_from hs.1 hs.2

theorem ofJson_stable {raw : Json} (hraw : raw.WellFormed) {d : Document}
    (h : ofJson raw = .ok d) : d.Stable := by
  obtain ⟨hskeleton, root, rfl, hok⟩ := ofJson_eq_ok.mp h
  obtain ⟨identity, hmeta, hfilled⟩ := hskeleton.identified
  have hdistinct := (hraw.member hmeta).distinct
  have hidentity := reads_identity.decodeMembersInto hraw.distinct hok
  rw [show root.lookup "meta" = _ from hmeta, Option.elim_some] at hidentity
  have hm := Meta.members_of_decode hidentity
  refine ⟨?_, ?_, ?_, ?_, ?_⟩
  · exact Meta.filled Meta.reads_title hdistinct hm (hfilled _ (by decide))
  · exact Meta.filled Meta.reads_slug hdistinct hm (hfilled _ (by decide))
  · exact Meta.filled Meta.reads_description hdistinct hm (hfilled _ (by decide))
  · exact Field.From.all_canonical (fields_from hraw hok)
  · intro c hc
    have hread := reads_crm.decodeMembersInto hraw.distinct hok
    rw [hc] at hread
    cases hlookup : root.lookup "crm" with
    | none =>
      rw [hlookup] at hread
      cases hread
    | some v =>
      rw [hlookup] at hread
      exact Crm.distinct_fieldMap (hraw.member hlookup) (Json.decodeOptional_eq_some hread)

theorem Stable.section_fields {d : Document} (h : d.Stable) :
    ∀ s ∈ d.sections, ∀ f ∈ s.fields, f.Canonical :=
  fun s hs f hf => h.fields f (List.mem_flatMap.mpr ⟨s, hs, hf⟩)

theorem Stable.toJson_wellFormed {d : Document} (h : d.Stable) : d.toJson.WellFormed := by
  have hsections : (Json.array (d.sections.map Section.toJson)).WellFormed :=
    Json.wellFormed_map fun s hs => s.toJson_wellFormed (h.section_fields s hs)
  exact Json.wellFormed_of_written ["meta", "sections", "crm", "settings"] (by decide) <|
    .cons d.identity.toJson_wellFormed <| .cons hsections <|
    .optional (fun c hc => Crm.toJson_wellFormed (h.fieldMap c hc)) <|
    .optional (fun s _ => s.toJson_wellFormed) .nil

theorem Stable.skeleton_toJson {d : Document} (h : d.Stable) : Skeleton d.toJson := by
  refine ⟨⟨_, rfl, ?_⟩, _, rfl, ?_⟩
  · intro key hkey
    simp only [requiredTexts, List.mem_cons, List.not_mem_nil, or_false] at hkey
    rcases hkey with rfl | rfl | rfl
    · exact ⟨_, rfl, h.title⟩
    · exact ⟨_, rfl, h.slug⟩
    · exact ⟨_, rfl, h.description⟩
  · exact List.forall_mem_map.mpr fun s _ => ⟨s.kind, rfl⟩

theorem Stable.ofJson_toJson {d : Document} (h : d.Stable) : ofJson d.toJson = .ok d := by
  refine ofJson_eq_ok.mpr ⟨h.skeleton_toJson, _, rfl, ?_⟩
  have hsections : decodeList decodeSection (.array (d.sections.map Section.toJson)) =
      .ok d.sections :=
    Json.decodeList_map fun s hs => s.decode_toJson (h.section_fields s hs)
  have hcrm (c : Crm) : decodeOptional Crm.decode c.toJson = .ok (some c) := by
    rw [Crm.toJson, Json.decodeOptional_object, ← Crm.toJson, c.decode_toJson, except_ok_map]
  have hsettings (s : Settings) : decodeOptional Settings.decode s.toJson = .ok (some s) := by
    rw [Settings.toJson, Json.decodeOptional_object, ← Settings.toJson, s.decode_toJson,
      except_ok_map]
  obtain ⟨identity, sections, crm, settings⟩ := d
  cases crm <;> cases settings <;>
    simp [Json.setMember, Slot.of, slots, empty, Meta.decode_toJson, hsections, hcrm, hsettings]

theorem entries_toJson (d : Document) : entries d.toJson = d.fields.map Field.toJson := by
  have hlist : listAt "sections" (d.toJson.asObject?.getD []) = d.sections.map Section.toJson := rfl
  simp only [entries, hlist, List.flatMap_map, Section.entries_toJson, fields, List.map_flatMap]

/-- Each member that is not a part of fields is the same in both values. -/
def KeepsUnknown (before after : Json) : Prop :=
  ∀ key v, key ∉ Field.memberNames → before.member? key = some v → after.member? key = some v

theorem keepsUnknown_of_from {v : Json} {f : Field} (h : Field.From v f) :
    KeepsUnknown v f.toJson := by
  obtain ⟨hv, hdecode⟩ := h
  obtain ⟨members, rfl, rfl⟩ := Field.decode_eq_ok.mp hdecode
  intro key w hkey hw
  exact Field.member?_toJson_ofMembers hv hkey hw

/-- A document is the one that its encoding is read as, and the encoding has each field in its
place, with all the members that were not interpreted. -/
theorem ofJson_round_trip {raw : Json} {d : Document} (hraw : raw.WellFormed)
    (h : ofJson raw = .ok d) :
    d.toJson.WellFormed ∧ ofJson d.toJson = .ok d ∧
      List.Forall₂ KeepsUnknown (entries raw) (entries d.toJson) := by
  have hstable := ofJson_stable hraw h
  refine ⟨hstable.toJson_wellFormed, hstable.ofJson_toJson, ?_⟩
  obtain ⟨_, root, rfl, hok⟩ := ofJson_eq_ok.mp h
  rw [entries_toJson]
  exact List.forall₂_map_right_iff.mpr ((fields_from hraw hok).imp fun _ _ => keepsUnknown_of_from)

/-- A document with what decoding changes: the order of members and of tags, a kind under a second
name, a flag and choices of other types, records written as lists, parts that are null. -/
def looseRequest : Json :=
  .object [
    ("crm", .object [("fieldMap", .object [("phone", .text "phone"), ("email", .text "email")]),
      ("tags", .array [.text "web", .text "lead", .text "web"])]),
    ("sections", .array [
      .object [("type", .text "form"), ("fields", .array [
        .object [("width", .number (.whole 2)), ("type", .text "tel"), ("required", .text " TRUE "),
          ("options", .array [.bool true, .null, .object [("value", .text "a")]]),
          ("defaultValue", .null), ("validation", .array [.null, .null, .text "[0-9]+"]),
          ("hint", .object [("tone", .null)])]])],
      .object [("steps", .array [.array [.text "One", .null, .array [
          .object [("type", .text "date"), ("name", .text "day")]]]]),
        ("type", .text "wizard"), ("heading", .null)]]),
    ("meta", .object [("slug", .text "request"), ("title", .text "Request"),
      ("description", .text "Ask for an offer"), ("icon", .null)]),
    ("settings", .array [.bool false])]

theorem ofJson_round_trip_looseRequest :
    looseRequest.WellFormed ∧ ∃ d, ofJson looseRequest = .ok d ∧
      d.toJson.WellFormed ∧ ofJson d.toJson = .ok d ∧
        List.Forall₂ KeepsUnknown (entries looseRequest) (entries d.toJson) := by
  have hwf : looseRequest.WellFormed := by
    simp [looseRequest, Json.wellFormed_object_iff, Json.wellFormed_array_iff, Members.Distinct,
      Json.WellFormed.null, Json.WellFormed.bool, Json.WellFormed.number, Json.WellFormed.text]
  exact ⟨hwf, _, rfl, ofJson_round_trip hwf rfl⟩

end Document

end AppDef
