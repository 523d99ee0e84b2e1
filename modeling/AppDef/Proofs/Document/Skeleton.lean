import AppDef.Document.Check
import AppDef.Proofs.Outcome

namespace AppDef

theorem SectionKind.ofName?_eq_some {name : String} {kind : SectionKind} :
    ofName? name = some kind ↔ name = kind.name := by
  constructor
  · intro h
    have hname := List.find?_some h
    exact (beq_iff_eq.mp hname).symm
  · rintro rfl
    cases kind <;> rfl

/-- A member that is the name of a kind of section, as the text that it is. -/
theorem SectionKind.told_iff {tag? : Option Json} {kind : SectionKind} :
    (tag?.bind Json.asText?).bind ofName? = some kind ↔ tag? = some (.text kind.name) := by
  cases tag? with
  | none => simp
  | some tag => cases tag <;> simp [Json.asText?, ofName?_eq_some]

namespace Document

/-- The member is a text that is not blank. -/
def Filled (identity : List (String × Json)) (key : String) : Prop :=
  ∃ s, identity.lookup key = some (.text s) ∧ Text.allBlank s = false

/-- The texts that every document has, in the order in which they are checked. -/
def requiredTexts : List String :=
  ["title", "slug", "description"]

/-- The value tells a kind of section. -/
def Kinded (v : Json) : Prop :=
  ∃ kind : SectionKind, v.member? "type" = some (.text kind.name)

def Identified (raw : Json) : Prop :=
  ∃ identity, raw.member? "meta" = some (.object identity) ∧ ∀ key ∈ requiredTexts,
    Filled identity key

structure Skeleton (raw : Json) : Prop where
  identified : Identified raw
  kinded : ∃ sections, raw.member? "sections" = some (.array sections) ∧ ∀ s ∈ sections, Kinded s

/-- What is wrong with a skeleton, all that is checked before being right. -/
inductive SkeletonFault (raw : Json) : SchemaError → Prop
  | noMeta : (∀ identity, raw.member? "meta" ≠ some (.object identity)) →
      SkeletonFault raw .missingMeta
  | noText {identity before key after} : raw.member? "meta" = some (.object identity) →
      requiredTexts = before ++ key :: after → (∀ earlier ∈ before, Filled identity earlier) →
      ¬ Filled identity key → SkeletonFault raw (.missingMetaField key)
  | noSections : Identified raw → (∀ sections, raw.member? "sections" ≠ some (.array sections)) →
      SkeletonFault raw .sectionsNotList
  | noKind {before s after} : Identified raw →
      raw.member? "sections" = some (.array (before ++ s :: after)) →
      (∀ earlier ∈ before, Kinded earlier) → ¬ Kinded s →
      SkeletonFault raw (.invalidSectionType before.length (describeKind (s.member? "type")))

theorem filled_iff {identity : List (String × Json)} {key : String} :
    ((identity.lookup key).bind Json.asText?).any (fun s => !Text.allBlank s) = true ↔
      Filled identity key := by
  unfold Filled
  cases identity.lookup key with
  | none => simp
  | some v => cases v <;> simp [Json.asText?]

theorem checkMeta_noMeta {root : List (String × Json)}
    (h : ∀ identity, root.lookup "meta" ≠ some (.object identity)) :
    checkMeta root = .error .missingMeta := by
  simp only [checkMeta]
  split
  · rfl
  · rename_i identity hidentity
    obtain ⟨v, hv, hobject⟩ := Option.bind_eq_some_iff.mp hidentity
    cases v <;> cases hobject
    exact absurd hv (h _)

theorem checkMeta_filled {root identity : List (String × Json)}
    (hmeta : root.lookup "meta" = some (.object identity))
    (hfilled : ∀ key ∈ requiredTexts, Filled identity key) : checkMeta root = .ok () := by
  simp only [checkMeta, hmeta, Option.bind_some, Json.asObject?]
  refine except_forM_ok ?_
  intro key hkey
  rw [if_pos (filled_iff.mpr (hfilled key hkey))]

theorem checkMeta_noText {root identity : List (String × Json)} {before after : List String}
    {key : String} (hmeta : root.lookup "meta" = some (.object identity))
    (hkeys : requiredTexts = before ++ key :: after)
    (hbefore : ∀ earlier ∈ before, Filled identity earlier) (hkey : ¬ Filled identity key) :
    checkMeta root = .error (.missingMetaField key) := by
  have hkeys : ["title", "slug", "description"] = before ++ key :: after := hkeys
  simp only [checkMeta, hmeta, Option.bind_some, Json.asObject?, hkeys]
  refine except_forM_error ?_ ?_ after
  · intro earlier hearlier
    rw [if_pos (filled_iff.mpr (hbefore earlier hearlier))]
  · rw [if_neg fun h => hkey (filled_iff.mp h)]

theorem checkKinds_kinded {sections : List Json} (h : ∀ s ∈ sections, Kinded s) (start : Nat) :
    checkKinds start sections = .ok () := by
  induction sections generalizing start with
  | nil => rfl
  | cons s sections ih =>
    obtain ⟨hhead, htail⟩ := List.forall_mem_cons.mp h
    obtain ⟨kind, hkind⟩ := hhead
    simp only [checkKinds, SectionKind.told_iff.mpr hkind]
    exact ih htail (start + 1)

theorem checkKinds_noKind {before after : List Json} {s : Json}
    (hbefore : ∀ earlier ∈ before, Kinded earlier) (hs : ¬ Kinded s) (start : Nat) :
    checkKinds start (before ++ s :: after) =
      .error (.invalidSectionType (start + before.length) (describeKind (s.member? "type"))) := by
  induction before generalizing start with
  | nil =>
    simp only [List.nil_append, checkKinds]
    split
    · rename_i hkind
      exact absurd ⟨_, SectionKind.told_iff.mp hkind⟩ hs
    · rfl
  | cons first before ih =>
    obtain ⟨hhead, htail⟩ := List.forall_mem_cons.mp hbefore
    obtain ⟨kind, hkind⟩ := hhead
    simp only [List.cons_append, checkKinds, SectionKind.told_iff.mpr hkind]
    rw [ih htail (start + 1), List.length_cons, Nat.add_assoc, Nat.add_comm 1]

theorem skeleton_or_fault (raw : Json) : Skeleton raw ∨ ∃ e, SkeletonFault raw e := by
  by_cases hmeta : ∃ identity, raw.member? "meta" = some (.object identity)
  · obtain ⟨identity, hmeta⟩ := hmeta
    rcases all_or_first (Filled identity) requiredTexts with
      hfilled | ⟨before, key, after, hkeys, hbefore, hkey⟩
    · have hidentified : Identified raw := ⟨identity, hmeta, hfilled⟩
      by_cases hlist : ∃ sections, raw.member? "sections" = some (.array sections)
      · obtain ⟨sections, hlist⟩ := hlist
        rcases all_or_first Kinded sections with hkinded | ⟨before, s, after, rfl, hbefore, hs⟩
        · exact .inl ⟨hidentified, sections, hlist, hkinded⟩
        · exact .inr ⟨_, .noKind hidentified hlist hbefore hs⟩
      · exact .inr ⟨_, .noSections hidentified (not_exists.mp hlist)⟩
    · exact .inr ⟨_, .noText hmeta hkeys hbefore hkey⟩
  · exact .inr ⟨_, .noMeta (not_exists.mp hmeta)⟩

theorem object_of_member {raw : Json} {key : String} {v : Json} (h : raw.member? key = some v) :
    ∃ root, raw = .object root ∧ root.lookup key = some v := by
  cases raw with
  | object root => exact ⟨root, rfl, h⟩
  | _ => cases h

theorem checkMeta_of_identified {root : List (String × Json)} (h : Identified (.object root)) :
    checkMeta root = .ok () := by
  obtain ⟨identity, hmeta, hfilled⟩ := h
  exact checkMeta_filled hmeta hfilled

theorem ofJson_of_fault {raw : Json} {e : SchemaError} (h : SkeletonFault raw e) :
    ofJson raw = .error e := by
  cases h with
  | noMeta hmeta =>
    cases raw with
    | object root => simp [ofJson, checkMeta_noMeta hmeta]
    | _ => rfl
  | noText hmeta hkeys hbefore hkey =>
    obtain ⟨root, rfl, hlookup⟩ := object_of_member hmeta
    simp [ofJson, checkMeta_noText hlookup hkeys hbefore hkey]
  | noSections hidentified hlist =>
    obtain ⟨identity, hmeta, _⟩ := id hidentified
    obtain ⟨root, rfl, _⟩ := object_of_member hmeta
    have hnone : (root.lookup "sections").bind Json.asArray? = none := by
      cases hlookup : root.lookup "sections" with
      | none => rfl
      | some v =>
        cases v with
        | array sections => exact absurd hlookup (hlist sections)
        | _ => rfl
    simp [ofJson, checkMeta_of_identified hidentified, hnone]
  | noKind hidentified hlist hbefore hs =>
    obtain ⟨root, rfl, hlookup⟩ := object_of_member hlist
    simp [ofJson, checkMeta_of_identified hidentified, hlookup, Json.asArray?,
      checkKinds_noKind hbefore hs]

/-- A value with a sound skeleton is the document that its parts decode to, or malformed. -/
theorem Skeleton.outcome {raw : Json} (h : Skeleton raw) :
    ∃ root, raw = .object root ∧
      ((∃ d, Json.decodeMembersInto slots empty root = .ok d ∧ ofJson raw = .ok d) ∨
        ∃ e message, Json.decodeMembersInto slots empty root = .error e ∧
          ofJson raw = .error (.malformed message)) := by
  obtain ⟨hidentified, sections, hlist, hkinded⟩ := h
  obtain ⟨root, rfl, hlookup⟩ := object_of_member hlist
  refine ⟨root, rfl, ?_⟩
  simp only [ofJson, checkMeta_of_identified hidentified, hlookup, Json.asArray?,
    checkKinds_kinded hkinded, Option.bind_some, except_ok_bind]
  cases Json.decodeMembersInto slots empty root with
  | ok d => exact .inl ⟨d, rfl, rfl⟩
  | error e => exact .inr ⟨e, _, rfl, rfl⟩

/-- Documents have a sound skeleton and parts that decode. -/
theorem ofJson_eq_ok {raw : Json} {d : Document} :
    ofJson raw = .ok d ↔ Skeleton raw ∧
      ∃ root, raw = .object root ∧ Json.decodeMembersInto slots empty root = .ok d := by
  constructor
  · intro h
    rcases skeleton_or_fault raw with hskeleton | ⟨e, hfault⟩
    · refine ⟨hskeleton, ?_⟩
      obtain ⟨root, rfl, ⟨d', hd, heq⟩ | ⟨e, message, _, heq⟩⟩ := hskeleton.outcome
      · rw [h] at heq
        cases heq
        exact ⟨root, rfl, hd⟩
      · rw [h] at heq
        cases heq
    · rw [ofJson_of_fault hfault] at h
      cases h
  · rintro ⟨hskeleton, root, rfl, hdecode⟩
    obtain ⟨_, hroot, ⟨d', hd, heq⟩ | ⟨e, message, he, _⟩⟩ := hskeleton.outcome
    · cases hroot
      rw [hdecode] at hd
      cases hd
      exact heq
    · cases hroot
      rw [hdecode] at he
      cases he

theorem SkeletonFault.not_malformed {raw : Json} {e : SchemaError} (h : SkeletonFault raw e)
    (message : String) : e ≠ .malformed message := by
  cases h <;> exact SchemaError.noConfusion

/-- A value is refused with a fault of its skeleton exactly when it has that fault. -/
theorem fault_iff {raw : Json} {e : SchemaError} :
    SkeletonFault raw e ↔ ofJson raw = .error e ∧ ∀ message, e ≠ .malformed message := by
  constructor
  · intro h
    exact ⟨ofJson_of_fault h, h.not_malformed⟩
  · rintro ⟨h, hmalformed⟩
    rcases skeleton_or_fault raw with hskeleton | ⟨e', hfault⟩
    · obtain ⟨root, rfl, ⟨d, _, heq⟩ | ⟨_, message, _, heq⟩⟩ := hskeleton.outcome
      · rw [h] at heq
        cases heq
      · rw [h] at heq
        cases heq
        exact absurd rfl (hmalformed message)
    · rw [ofJson_of_fault hfault] at h
      cases h
      exact hfault

theorem malformed_iff {raw : Json} :
    (∃ message, ofJson raw = .error (.malformed message)) ↔
      Skeleton raw ∧ ¬ ∃ d, ofJson raw = .ok d := by
  constructor
  · rintro ⟨message, h⟩
    rcases skeleton_or_fault raw with hskeleton | ⟨e, hfault⟩
    · refine ⟨hskeleton, ?_⟩
      rintro ⟨d, hd⟩
      rw [h] at hd
      cases hd
    · rw [ofJson_of_fault hfault] at h
      cases h
      exact absurd rfl (hfault.not_malformed message)
  · rintro ⟨hskeleton, hrefused⟩
    obtain ⟨root, rfl, ⟨d, _, heq⟩ | ⟨_, message, _, heq⟩⟩ := hskeleton.outcome
    · exact absurd ⟨d, heq⟩ hrefused
    · exact ⟨message, heq⟩

end Document

end AppDef
