import AppDef.Proofs.Document.Acceptance
import AppDef.Proofs.Document.RoundTrip
import AppDef.Proofs.Draft.Fence
import AppDef.Proofs.Json.Printing

namespace AppDef

namespace Members

variable {α : Type} {key name : String} {value : α} {members members' : List (String × α)}

theorem Distinct.perm (h : Distinct members) (hp : members.Perm members') : Distinct members' :=
  (hp.map _).nodup_iff.mp h

theorem Distinct.lookup_eq_some_iff (h : Distinct members) :
    members.lookup key = some value ↔ (key, value) ∈ members :=
  ⟨mem_of_lookup, h.lookup⟩

/-- Where no two members have one name, the order of them does not matter. -/
theorem Distinct.lookup_perm (h : Distinct members) (hp : members.Perm members') (key : String) :
    members.lookup key = members'.lookup key := by
  apply Option.ext
  intro value
  rw [h.lookup_eq_some_iff, (h.perm hp).lookup_eq_some_iff]
  exact hp.mem_iff

theorem findIdx?_of_absent (h : key ∉ members.map (·.1)) :
    members.findIdx? (·.1 == key) = none := by
  apply List.findIdx?_eq_none_iff.mpr
  intro m hm
  apply beq_eq_false_iff_ne.mpr
  intro he
  exact h (List.mem_map.mpr ⟨m, hm, he⟩)

theorem swapRemove_of_absent (h : key ∉ members.map (·.1)) : swapRemove key members = members := by
  simp only [swapRemove, findIdx?_of_absent h]

/-- The last member moves to the place of the one that is taken out. -/
theorem swapRemove_perm {before after : List (String × α)} (h : key ∉ before.map (·.1)) :
    (swapRemove key (before ++ (key, value) :: after)).Perm (before ++ after) := by
  have hplace : (before ++ (key, value) :: after).findIdx? (·.1 == key) = some before.length := by
    simp [List.findIdx?_append, findIdx?_of_absent h, List.findIdx?_cons]
  rcases List.eq_nil_or_concat after with rfl | ⟨after, last, rfl⟩
  · simp [swapRemove, hplace]
  · rw [List.concat_eq_append] at hplace ⊢
    have hlast : (before ++ (key, value) :: (after ++ [last])).getLast? = some last := by
      simp [List.getLast?_append, List.getLast?_cons]
    have hset : (before ++ (key, value) :: (after ++ [last])).set before.length last =
        before ++ last :: after ++ [last] := by
      simp
    simp only [swapRemove, hplace, hlast, hset, List.dropLast_concat]
    apply List.Perm.append_left
    exact (List.perm_append_singleton last after).symm

/-- A member that is there if there is a value for it. -/
def given (key : String) (value? : Option α) : List (String × α) :=
  value?.toList.map fun value => (key, value)

theorem mem_given {value? : Option α} {m : String × α} :
    m ∈ given key value? ↔ m.1 = key ∧ value? = some m.2 := by
  obtain ⟨name, value⟩ := m
  cases value? <;> simp [given, eq_comm]

/-- Taking a member out leaves the others, in whatever order all of them stood. -/
theorem Distinct.swapRemove_perm {value? : Option α} (h : Distinct members)
    (hp : members.Perm (given key value? ++ members')) (habsent : key ∉ members'.map (·.1)) :
    (swapRemove key members).Perm members' := by
  cases value? with
  | none =>
    have hp : members.Perm members' := hp
    rwa [swapRemove_of_absent fun hm => habsent ((hp.map _).mem_iff.mp hm)]
  | some value =>
    have hp : members.Perm ((key, value) :: members') := hp
    obtain ⟨before, after, rfl⟩ := List.append_of_mem (hp.mem_iff.mpr List.mem_cons_self)
    have hbefore : key ∉ before.map (·.1) := by
      intro hm
      simp only [Distinct, List.map_append, List.map_cons] at h
      exact (List.nodup_middle.mp h).notMem (List.mem_append_left _ hm)
    apply (Members.swapRemove_perm hbefore).trans
    exact (List.perm_middle.symm.trans hp).cons_inv

theorem Distinct.lookup_given_perm {value? : Option α} (h : Distinct members)
    (hp : members.Perm (given key value? ++ members')) (habsent : key ∉ members'.map (·.1)) :
    members.lookup key = value? := by
  apply Option.ext
  intro value
  rw [h.lookup_eq_some_iff, hp.mem_iff, List.mem_append, mem_given]
  constructor
  · intro hm
    rcases hm with ⟨-, hm⟩ | hm
    · exact hm
    · exact absurd (List.mem_map.mpr ⟨_, hm, rfl⟩) habsent
  · intro hv
    exact .inl ⟨rfl, hv⟩

end Members

/-- One error, or two that only tell different texts of a value that is malformed. -/
def SchemaError.Alike (e e' : SchemaError) : Prop :=
  e = e' ∨ ∃ text text', e = .malformed text ∧ e' = .malformed text'

namespace Document

open Json (Reads Conforms decodeOptional)

theorem reads_settings :
    Reads slots "settings" (decodeOptional Settings.decode) Document.settings where
  known := by decide
  feeds := by simp +contextual [slots, Json.Slot.of_feeds]

section Congruence

variable {raw raw' : Json} {e : SchemaError}

theorem Identified.congr (hm : ∀ key, raw.member? key = raw'.member? key) (h : Identified raw) :
    Identified raw' := by
  obtain ⟨identity, hmeta, hfilled⟩ := h
  exact ⟨identity, (hm _).symm.trans hmeta, hfilled⟩

theorem Skeleton.congr (hm : ∀ key, raw.member? key = raw'.member? key) (h : Skeleton raw) :
    Skeleton raw' := by
  obtain ⟨hidentified, sections, hlist, hkinded⟩ := h
  exact ⟨hidentified.congr hm, sections, (hm _).symm.trans hlist, hkinded⟩

theorem SkeletonFault.congr (hm : ∀ key, raw.member? key = raw'.member? key)
    (h : SkeletonFault raw e) : SkeletonFault raw' e := by
  cases h with
  | noMeta hmeta => exact .noMeta fun identity => hm "meta" ▸ hmeta identity
  | noText hmeta hkeys hbefore hkey =>
    exact .noText ((hm _).symm.trans hmeta) hkeys hbefore hkey
  | noSections hidentified hlist =>
    exact .noSections (hidentified.congr hm) fun sections => hm "sections" ▸ hlist sections
  | noKind hidentified hlist hbefore hs =>
    exact .noKind (hidentified.congr hm) ((hm _).symm.trans hlist) hbefore hs

end Congruence

variable {root root' : List (String × Json)} {d : Document} {e : SchemaError}

/-- The parts of a document are read off their members, wherever these stand. -/
theorem decodeMembersInto_perm (h : Members.Distinct root) (hp : root.Perm root')
    (hd : Json.decodeMembersInto slots empty root = .ok d) :
    Json.decodeMembersInto slots empty root' = .ok d := by
  have hconforms : Conforms attributes root' := by
    intro m hm
    exact (Json.decodeMembersInto_isOk slots_take root empty).mp ⟨d, hd⟩ m (hp.mem_iff.mpr hm)
  obtain ⟨d', hd'⟩ := (Json.decodeMembersInto_isOk slots_take root' empty).mpr hconforms
  have hsame {β : Type} {name : String} {decode : Json.Decoder β} {get : Document → β}
      (hreads : Reads slots name decode get) : get d = get d' := by
    have hread := hreads.decodeMembersInto h hd
    rw [h.lookup_perm hp, hreads.decodeMembersInto (h.perm hp) hd'] at hread
    exact (Except.ok.inj hread).symm
  have heq : d = d' := by
    obtain ⟨identity, sections, crm, settings⟩ := d
    obtain ⟨identity', sections', crm', settings'⟩ := d'
    exact Document.mk.injEq .. ▸ ⟨hsame reads_identity, hsame reads_sections, hsame reads_crm,
      hsame reads_settings⟩
  exact heq ▸ hd'

theorem member?_perm (h : Members.Distinct root) (hp : root.Perm root') (key : String) :
    (Json.object root).member? key = (Json.object root').member? key :=
  h.lookup_perm hp key

theorem ofJson_perm_ok (h : Members.Distinct root) (hp : root.Perm root')
    (hd : ofJson (.object root) = .ok d) : ofJson (.object root') = .ok d := by
  obtain ⟨hskeleton, _, ⟨⟩, hdecode⟩ := ofJson_eq_ok.mp hd
  apply ofJson_eq_ok.mpr
  exact ⟨hskeleton.congr (member?_perm h hp), root', rfl, decodeMembersInto_perm h hp hdecode⟩

/-- Of two parts at fault the one that stands first is told, and this alone depends on the order. -/
theorem ofJson_perm_error (h : Members.Distinct root) (hp : root.Perm root')
    (he : ofJson (.object root) = .error e) :
    ∃ e', ofJson (.object root') = .error e' ∧ e'.Alike e := by
  rcases skeleton_or_fault (.object root) with hskeleton | ⟨fault, hfault⟩
  · have hrefused : ¬ ∃ d, ofJson (.object root') = .ok d := by
      intro ⟨d, hd⟩
      rw [ofJson_perm_ok (h.perm hp) hp.symm hd] at he
      cases he
    obtain ⟨text', he'⟩ := malformed_iff.mpr ⟨hskeleton.congr (member?_perm h hp), hrefused⟩
    obtain ⟨text, hmalformed⟩ : ∃ text, e = .malformed text := by
      by_contra hnot
      have hfault := fault_iff.mpr ⟨he, not_exists.mp hnot⟩
      rw [ofJson_of_fault (hfault.congr (member?_perm h hp))] at he'
      cases he'
      exact hnot ⟨text', rfl⟩
    exact ⟨_, he', .inr ⟨text', text, rfl, hmalformed⟩⟩
  · have hsame : e = fault := by
      rw [ofJson_of_fault hfault] at he
      exact (Except.error.inj he).symm
    exact ⟨fault, ofJson_of_fault (hfault.congr (member?_perm h hp)), .inl hsame.symm⟩

end Document

namespace Draft

open Members (given)

variable {o o' : List (String × Json)} {complex? source? : Option Json}

/-- What is said beside a document, as the draft has it. -/
theorem ofMembers_eq (h : Members.Distinct o')
    (hp : o'.Perm (given complexKey complex? ++ given sourceKey source? ++ o))
    (hcomplex : complexKey ∉ o.map (·.1)) (hsource : sourceKey ∉ o.map (·.1)) :
    ∃ rest, rest.Perm o ∧ ofMembers o' = do
      let document ← (Document.ofJson (.object rest)).mapError .schema
      return ⟨document, (complex?.bind Json.asBool?).getD false,
        (source?.bind Json.asText?).filter (!Text.allBlank ·)⟩ := by
  have hcomplexed : complexKey ∉ (given sourceKey source? ++ o).map (·.1) := by
    cases source? <;> simpa [given, complexKey, sourceKey] using hcomplex
  rw [List.append_assoc] at hp
  have hfirst := h.swapRemove_perm hp hcomplexed
  have hdistinct : Members.Distinct (Members.swapRemove complexKey o') := by
    have hboth := h.perm hp
    rw [Members.Distinct, List.map_append] at hboth
    exact Members.Distinct.perm hboth.of_append_right hfirst.symm
  refine ⟨_, hdistinct.swapRemove_perm hfirst hsource, ?_⟩
  simp only [ofMembers, h.lookup_given_perm hp hcomplexed,
    hdistinct.lookup_given_perm hfirst hsource]

theorem getD_asBool?_iff {v? : Option Json} :
    (v?.bind Json.asBool?).getD false = true ↔ v? = some (.bool true) := by
  cases v? with
  | none => simp
  | some v => cases v <;> simp [Json.asBool?]

theorem filter_asText?_eq_some_iff {v? : Option Json} {s : String} :
    (v?.bind Json.asText?).filter (!Text.allBlank ·) = some s ↔
      v? = some (.text s) ∧ Text.allBlank s = false := by
  cases v? with
  | none => simp
  | some v => cases v <;> simp [Json.asText?, Option.filter_eq_some_iff]

/-- The draft in an object is the document in its other members, with what the two said beside it;
and if these are no document, it is refused as they are. -/
theorem read_beside {raw : String} (hraw : Json.read (stripFence raw) = .ok (.object o'))
    (hp : o'.Perm (given complexKey complex? ++ given sourceKey source? ++ o))
    (hcomplex : complexKey ∉ o.map (·.1)) (hsource : sourceKey ∉ o.map (·.1)) :
    (∀ draft, read raw = .ok draft ↔ Document.ofJson (.object o) = .ok draft.document ∧
      (draft.isComplex = true ↔ complex? = some (.bool true)) ∧
      ∀ code, draft.sourceCode = some code ↔
        source? = some (.text code) ∧ Text.allBlank code = false) ∧
    ∀ e, Document.ofJson (.object o) = .error e →
      ∃ e', read raw = .error (.schema e') ∧ e'.Alike e := by
  have hdistinct : Members.Distinct o' := (Json.read_wellFormed hraw).distinct
  have ho : Members.Distinct o := by
    have hall := hdistinct.perm hp
    rw [Members.Distinct, List.map_append] at hall
    exact hall.of_append_right
  obtain ⟨rest, hrest, hmembers⟩ := ofMembers_eq hdistinct hp hcomplex hsource
  have hread : read raw = ofMembers o' := by
    simp [read, hraw, Except.mapError]
  rw [hread, hmembers]
  cases hdocument : Document.ofJson (.object o) with
  | ok d =>
    rw [Document.ofJson_perm_ok ho hrest.symm hdocument]
    refine ⟨fun draft => ⟨fun h => ?_, fun h => ?_⟩, fun e he => by cases he⟩
    · cases h
      exact ⟨rfl, getD_asBool?_iff, fun code => filter_asText?_eq_some_iff⟩
    · obtain ⟨document, isComplex, sourceCode⟩ := draft
      obtain ⟨hd, hflag, hcode⟩ := h
      cases hd
      have hflag : isComplex = (complex?.bind Json.asBool?).getD false :=
        Bool.eq_iff_iff.mpr (hflag.trans getD_asBool?_iff.symm)
      have hcode : sourceCode = (source?.bind Json.asText?).filter (!Text.allBlank ·) :=
        Option.ext fun code => (hcode code).trans filter_asText?_eq_some_iff.symm
      rw [hflag, hcode]
      rfl
  | error e =>
    obtain ⟨e', he', halike⟩ := Document.ofJson_perm_error ho hrest.symm hdocument
    rw [he']
    refine ⟨fun draft => ?_, fun _ he => ?_⟩
    · constructor
      · intro h
        cases h
      · intro h
        cases h.1
    · cases he
      exact ⟨e', rfl, halike⟩

theorem isBody_print (members : List (String × Json)) :
    IsBody (Json.object members).print.toList := by
  cases members with
  | nil => exact ⟨rfl, rfl⟩
  | cons m members =>
    rw [Json.toList_print_object]
    exact ⟨rfl, by simp [List.getLast?_cons, List.getLast?_append]⟩

/-- The members of a document. -/
def noteMembers : List (String × Json) :=
  [("sections", .array []),
    ("meta", .object [("title", .text "A"), ("slug", .text "a"), ("description", .text "A")])]

/-- The same, and around the first of them a flag and code. -/
def noteBeside : List (String × Json) :=
  [(complexKey, .bool true), ("sections", .array []), (sourceKey, .text "<p>"),
    ("meta", .object [("title", .text "A"), ("slug", .text "a"), ("description", .text "A")])]

theorem noteBeside_plain : (Json.object noteBeside).Plain 3 := by
  have hidentity : (Json.object [("title", .text "A"), ("slug", .text "a"),
      ("description", .text "A")]).Plain 2 := by
    apply Json.Plain.object
    · simp [Members.Distinct]
    · simp [Json.Plain.text]
  apply Json.Plain.object
  · simp [Members.Distinct, noteBeside, complexKey, sourceKey]
  · intro m hm
    simp only [noteBeside, List.mem_cons, List.not_mem_nil, or_false] at hm
    rcases hm with rfl | rfl | rfl | rfl
    · exact .bool true
    · exact .array (List.forall_mem_nil _)
    · exact .text "<p>"
    · exact hidentity

def note : Document :=
  ⟨⟨"A", "a", "A", none⟩, [], none, none⟩

theorem read_beside_note :
    Json.read (stripFence (jsonFence.lines (Json.object noteBeside).print)) =
        .ok (.object noteBeside) ∧
      noteBeside.Perm (given complexKey (some (.bool true)) ++
        given sourceKey (some (.text "<p>")) ++ noteMembers) ∧
      read (jsonFence.lines (Json.object noteBeside).print) = .ok ⟨note, true, some "<p>"⟩ := by
  have hraw : Json.read (stripFence (jsonFence.lines (Json.object noteBeside).print)) =
      .ok (.object noteBeside) := by
    rw [jsonFence.stripFence_lines (isBody_print noteBeside)]
    exact Json.read_print noteBeside_plain (by decide)
  have hp : noteBeside.Perm (given complexKey (some (.bool true)) ++
      given sourceKey (some (.text "<p>")) ++ noteMembers) := by
    apply List.Perm.cons
    exact List.Perm.swap _ _ _
  have hread := (read_beside hraw hp (by decide) (by decide)).1 ⟨note, true, some "<p>"⟩
  refine ⟨hraw, hp, hread.mpr ⟨rfl, by simp, ?_⟩⟩
  intro code
  constructor
  · intro hcode
    cases hcode
    exact ⟨rfl, rfl⟩
  · intro hcode
    cases hcode.1
    rfl

end Draft

end AppDef
