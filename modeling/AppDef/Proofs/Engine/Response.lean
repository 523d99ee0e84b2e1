import AppDef.Proofs.Document.RoundTrip
import AppDef.Proofs.Engine.Endpoint

namespace AppDef

/-- What is accepted as a document is also decoded as this document. -/
theorem Document.decode_of_ofJson {raw : Json} {d : Document} (h : ofJson raw = .ok d) :
    decode raw = .ok d := by
  obtain ⟨hskeleton, root, rfl, hdecode⟩ := ofJson_eq_ok.mp h
  obtain ⟨⟨identity, hmeta, -⟩, sections, hsections, -⟩ := hskeleton
  have hgiven : (["meta", "sections"].find? fun name =>
      !Json.isGiven slots name (.object root)) = none := by
    change root.lookup "meta" = _ at hmeta
    change root.lookup "sections" = _ at hsections
    simp [Json.isGiven, hmeta, hsections]
  simp only [decode, Json.decodeStrict, Json.decodeRecord, hdecode, except_ok_bind, hgiven,
    except_pure]

/-- The first alternative that takes a value decides. -/
theorem decodeFirst_of_ok {α : Type} {name : String} {decode : Json.Decoder α} {v : Json} {a : α}
    (h : decode v = .ok a) (alternatives : List (Json.Decoder α)) :
    decodeFirst name (decode :: alternatives) v = .ok a := by
  simp [decodeFirst, h, Except.toOption]

theorem SubmitResponse.toJson_wellFormed (r : SubmitResponse) : r.toJson.WellFormed :=
  Json.read_wellFormed (Json.read_print r.toJson_plain (by decide))

namespace GenerateResponse

/-- The definition, if the response has one, is a document that was accepted. -/
def HoldsAccepted : GenerateResponse → Prop
  | .generated draft => ∃ raw : Json, raw.WellFormed ∧ Document.ofJson raw = .ok draft.document
  | .failed _ => True

theorem decodeGenerated_toJson {draft : Draft} (h : draft.document.Stable) :
    decodeGenerated (generated draft).toJson = .ok (generated draft) := by
  have hdefinition : decodeMember "definition" Document.decode (generated draft).toJson =
      .ok draft.document :=
    Document.decode_of_ofJson h.ofJson_toJson
  have hcomplex : decodeMember "isComplex" Json.decodeFlag (generated draft).toJson =
      .ok draft.isComplex :=
    rfl
  have hcode : (generated draft).toJson.member? "sourceCode" =
      draft.sourceCode.map Json.text := by
    simp [toJson, Json.member?, Members.lookup_cons, Members.lookup_optional]
  obtain ⟨document, isComplex, sourceCode⟩ := draft
  simp only [decodeGenerated, hdefinition, hcomplex, hcode]
  cases sourceCode <;> rfl

theorem decode_toJson {r : GenerateResponse} (h : r.HoldsAccepted) : decode r.toJson = .ok r := by
  cases r with
  | generated draft =>
    obtain ⟨raw, hraw, haccepted⟩ := h
    exact decodeFirst_of_ok (decodeGenerated_toJson (Document.ofJson_stable hraw haccepted)) _
  | failed message => rfl

theorem toJson_wellFormed {r : GenerateResponse} (h : r.HoldsAccepted) : r.toJson.WellFormed := by
  cases r with
  | generated draft =>
    obtain ⟨raw, hraw, haccepted⟩ := h
    have hdefinition := (Document.ofJson_stable hraw haccepted).toJson_wellFormed
    exact Json.wellFormed_of_written ["definition", "isComplex", "sourceCode"] (by decide) <|
      .cons hdefinition <| .cons (.bool _) <| .last fun _ _ => .text _
  | failed message =>
    exact Json.wellFormed_of_written ["error"] (by decide) (.cons (.text message) .nil)

end GenerateResponse

/-- An encoded response names no member twice and is decoded as the response that it encodes, of the
same alternative and with the same contents, and as no other one. -/
theorem responses_decode_to_themselves :
    (∀ r : SubmitResponse, r.toJson.WellFormed ∧
      ∀ r', SubmitResponse.decode r.toJson = .ok r' ↔ r' = r) ∧
    ∀ r : GenerateResponse, r.HoldsAccepted → r.toJson.WellFormed ∧
      ∀ r', GenerateResponse.decode r.toJson = .ok r' ↔ r' = r := by
  refine ⟨fun r => ⟨r.toJson_wellFormed, fun r' => ?_⟩, fun r h => ⟨r.toJson_wellFormed h, ?_⟩⟩
  · rw [r.decode_toJson, Except.ok.injEq, eq_comm]
  · intro r'
    rw [GenerateResponse.decode_toJson h, Except.ok.injEq, eq_comm]

/-- A definition with a kind of field that is not known and members that are not interpreted. -/
def stay : Json :=
  .object [
    ("meta", .object [("title", .text "Stay"), ("slug", .text "stay"),
      ("description", .text "Books a room")]),
    ("sections", .array [
      .object [("type", .text "wizard"), ("steps", .array [
        .object [("title", .text "When"), ("fields", .array [
          .object [("name", .text "day"), ("type", .text "date"), ("widget", .text "calendar")]])],
        .object [("fields", .array [
          .object [("name", .text "room"), ("type", .text "radio"),
            ("options", .array [.number (.whole 1), .text "suite"])]])]])],
      .object [("type", .text "text"), ("body", .text "Until soon")]])]

theorem responses_decode_to_themselves_stay :
    stay.WellFormed ∧ ∃ d, Document.ofJson stay = .ok d ∧
      let r := GenerateResponse.generated ⟨d, true, some "<p>"⟩
      r.HoldsAccepted ∧ r.toJson.WellFormed ∧ GenerateResponse.decode r.toJson = .ok r := by
  have hwf : stay.WellFormed := by
    simp [stay, Json.wellFormed_object_iff, Json.wellFormed_array_iff, Members.Distinct,
      Json.WellFormed.number, Json.WellFormed.text]
  refine ⟨hwf, _, rfl, ⟨stay, hwf, rfl⟩, ?_⟩
  have h := responses_decode_to_themselves.2 (.generated ⟨_, true, some "<p>"⟩) ⟨stay, hwf, rfl⟩
  exact ⟨h.1, (h.2 _).mpr rfl⟩

end AppDef
