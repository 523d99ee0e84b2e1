import AppDef.Json.Slot
import AppDef.Proofs.Json.WellFormed
import AppDef.Proofs.Outcome

namespace AppDef.Json

variable {α β : Type}

@[simp] theorem decodeText_text (s : String) : decodeText (.text s) = .ok s :=
  rfl

@[simp] theorem decodeFlag_bool (b : Bool) : decodeFlag (.bool b) = .ok b :=
  rfl

@[simp] theorem decodeOptional_text (s : String) :
    decodeOptional decodeText (.text s) = .ok (some s) :=
  rfl

@[simp] theorem decodeOptional_object (decode : Decoder α) (members : List (String × Json)) :
    decodeOptional decode (.object members) = (decode (.object members)).map some :=
  rfl

@[simp] theorem decodeMembersInto_nil (slots : List (Slot α)) (a : α) :
    decodeMembersInto slots a [] = .ok a :=
  rfl

@[simp] theorem decodeMembersInto_cons (slots : List (Slot α)) (a : α) (m : String × Json)
    (members : List (String × Json)) :
    decodeMembersInto slots a (m :: members) =
      setMember slots a m >>= fun a => decodeMembersInto slots a members :=
  rfl

/-- The members of an object, or the items of a list under the first of the names. -/
def membersOf? (names : List String) : Json → Option (List (String × Json))
  | .object members => some members
  | .array items => if items.length ≤ names.length then some (names.zip items) else none
  | _ => none

def slotNames (slots : List (Slot α)) : List String :=
  slots.map (·.name)

theorem find?_slot {slots : List (Slot α)} (hnames : (slotNames slots).Nodup) {slot : Slot α}
    (hslot : slot ∈ slots) : slots.find? (·.name == slot.name) = some slot := by
  induction slots with
  | nil => cases hslot
  | cons head slots ih =>
    obtain ⟨habsent, hnames⟩ := List.nodup_cons.mp hnames
    rcases List.mem_cons.mp hslot with rfl | hslot
    · simp
    · have hne : (head.name == slot.name) = false := by
        refine beq_eq_false_iff_ne.mpr ?_
        intro he
        exact habsent (List.mem_map.mpr ⟨slot, hslot, he.symm⟩)
      rw [List.find?_cons, hne]
      exact ih hnames hslot

/-- Items are taken into a record as the members that they stand for. -/
theorem foldlM_setItem {slots : List (Slot α)} (hnames : (slotNames slots).Nodup)
    (items : List Json) (start : α) :
    (slots.zip items).foldlM setItem start =
      decodeMembersInto slots start ((slotNames slots).zip items) := by
  have hset : ∀ p ∈ slots.zip items, ∀ a, setItem a p = setMember slots a (p.1.name, p.2) := by
    intro p hp a
    simp only [setItem, setMember, find?_slot hnames (List.of_mem_zip hp).1]
  simp only [decodeMembersInto, slotNames, List.zip_map_left, List.foldlM_map]
  generalize slots.zip items = pairs at hset
  induction pairs generalizing start with
  | nil => rfl
  | cons p pairs ih =>
    obtain ⟨hhead, htail⟩ := List.forall_mem_cons.mp hset
    simp only [List.foldlM_cons, hhead]
    exact bind_congr fun a => ih a htail

theorem decodeRecord_eq_ok {source : Source} {name : String} {slots : List (Slot α)}
    (hnames : (slotNames slots).Nodup) {start a : α} {v : Json} :
    decodeRecord source name slots start v = .ok a ↔
      ∃ members, membersOf? (slotNames slots) v = some members ∧
        decodeMembersInto slots start members = .ok a := by
  cases v with
  | object members => simp [decodeRecord, membersOf?]
  | array items =>
    have hlength : (slotNames slots).length = slots.length := List.length_map _
    simp only [decodeRecord, membersOf?, except_bind_eq_ok, foldlM_setItem hnames, hlength]
    by_cases hlong : slots.length < items.length
    · simp [hlong, Nat.not_le_of_lt hlong]
    · simp [hlong, Nat.le_of_not_lt hlong]
  | _ => simp [decodeRecord, membersOf?, mismatch]

theorem WellFormed.membersOf {names : List String} (hnames : names.Nodup) {v : Json}
    (h : v.WellFormed) {members : List (String × Json)} (hm : membersOf? names v = some members) :
    (Json.object members).WellFormed := by
  cases v with
  | object ms =>
    cases hm
    exact h
  | array items =>
    simp only [membersOf?] at hm
    split at hm
    · cases hm
      refine .object (Members.distinct_zip hnames items) ?_
      intro m hm
      exact h.items _ (List.of_mem_zip hm).2
    · cases hm
  | _ => cases hm

def IsText (v : Json) : Prop :=
  ∃ s, v = .text s

def IsFlag (v : Json) : Prop :=
  ∃ b, v = .bool b

def IsObject (v : Json) : Prop :=
  ∃ members, v = .object members

def OrNull (shape : Json → Prop) (v : Json) : Prop :=
  v = .null ∨ shape v

def ListOf (shape : Json → Prop) (v : Json) : Prop :=
  ∃ items, v = .array items ∧ ∀ item ∈ items, shape item

def MapOf (shape : Json → Prop) (v : Json) : Prop :=
  ∃ members, v = .object members ∧ ∀ m ∈ members, shape m.2

/-- The members that a record knows, in their order, and the shape of each. -/
abbrev Attributes := List (String × (Json → Prop))

/-- Every member that is known has its shape. -/
def Conforms (attributes : Attributes) (members : List (String × Json)) : Prop :=
  ∀ m ∈ members, ∀ shape, attributes.lookup m.1 = some shape → shape m.2

/-- An object or a list of members that conform. -/
def RecordOf (attributes : Attributes) (v : Json) : Prop :=
  ∃ members, membersOf? (attributes.map (·.1)) v = some members ∧ Conforms attributes members

/-- The same, and some members have to be there. -/
def StrictRecordOf (attributes : Attributes) (required : List String) (v : Json) : Prop :=
  ∃ members, membersOf? (attributes.map (·.1)) v = some members ∧ Conforms attributes members ∧
    ∀ name ∈ required, (members.lookup name).isSome

/-- The values that a decoder accepts are those of a shape. -/
def Decoder.Takes (decode : Decoder α) (shape : Json → Prop) : Prop :=
  ∀ v, (∃ a, decode v = .ok a) ↔ shape v

/-- A slot is that of a known member and accepts its shape, whatever the record holds. -/
def Slot.Takes (slot : Slot α) (known : String × (Json → Prop)) : Prop :=
  slot.name = known.1 ∧ ∀ v a, (∃ a', slot.set v a = .ok a') ↔ known.2 v

theorem Slot.of_takes {decode : Decoder β} {shape : Json → Prop} (h : decode.Takes shape)
    (name : String) (put : β → α → α) : (Slot.of name decode put).Takes (name, shape) := by
  refine ⟨rfl, ?_⟩
  intro v a
  simp [Slot.of, except_map_eq_ok, ← h v]

theorem decodeText_takes : Decoder.Takes decodeText IsText := by
  intro v
  cases v <;> simp [decodeText, mismatch, IsText]

theorem decodeFlag_takes : Decoder.Takes decodeFlag IsFlag := by
  intro v
  cases v <;> simp [decodeFlag, mismatch, IsFlag]

theorem decodeOptional_takes {decode : Decoder α} {shape : Json → Prop} (h : decode.Takes shape) :
    (decodeOptional decode).Takes (OrNull shape) := by
  intro v
  cases v <;> simp [decodeOptional, except_map_eq_ok, OrNull, ← h _]

theorem decodeOptional_eq_some {decode : Decoder α} {v : Json} {a : α}
    (h : decodeOptional decode v = .ok (some a)) : decode v = .ok a := by
  cases v with
  | null => cases h
  | _ =>
    obtain ⟨_, hdecode, he⟩ := except_map_eq_ok.mp h
    cases he
    exact hdecode

theorem decodeList_eq_ok {decode : Decoder α} {v : Json} {l : List α} :
    decodeList decode v = .ok l ↔
      ∃ items, v = .array items ∧ List.Forall₂ (fun item a => decode item = .ok a) items l := by
  cases v <;> simp [decodeList, mismatch, except_mapM_eq_ok]

theorem decodeList_map {decode : Decoder α} {encode : α → Json} {l : List α}
    (h : ∀ a ∈ l, decode (encode a) = .ok a) :
    decodeList decode (.array (l.map encode)) = .ok l := by
  refine decodeList_eq_ok.mpr ⟨_, rfl, ?_⟩
  exact List.forall₂_map_left_iff.mpr (List.forall₂_same.mpr h)

theorem decodeList_takes {decode : Decoder α} {shape : Json → Prop} (h : decode.Takes shape) :
    (decodeList decode).Takes (ListOf shape) := by
  intro v
  cases v <;> simp [decodeList, mismatch, ListOf, except_mapM_isOk, h _]

theorem decodeMembers_object_eq_ok {decode : Decoder α} {members : List (String × Json)}
    {l : List (String × α)} : decodeMembers decode (.object members) = .ok l ↔
      List.Forall₂ (fun m e => m.1 = e.1 ∧ decode m.2 = .ok e.2) members l := by
  have hstep (m : String × Json) (e : String × α) :
      (do return (m.1, ← decode m.2) : Except ShapeError (String × α)) = .ok e ↔
        m.1 = e.1 ∧ decode m.2 = .ok e.2 := by
    obtain ⟨name, a⟩ := e
    simp only [except_bind_eq_ok, except_pure, Except.ok.injEq, Prod.mk.injEq]
    constructor
    · rintro ⟨_, hdecode, rfl, rfl⟩
      exact ⟨rfl, hdecode⟩
    · rintro ⟨rfl, hdecode⟩
      exact ⟨a, hdecode, rfl, rfl⟩
  simp only [decodeMembers, except_mapM_eq_ok, hstep]

/-- Decoding the members of an object keeps their names. -/
theorem decodeMembers_names {decode : Decoder α} {members : List (String × Json)}
    {l : List (String × α)} (h : decodeMembers decode (.object members) = .ok l) :
    members.map (·.1) = l.map (·.1) := by
  refine List.forall₂_eq_eq_eq ▸ ?_
  refine List.forall₂_map_left_iff.mpr (List.forall₂_map_right_iff.mpr ?_)
  exact (decodeMembers_object_eq_ok.mp h).imp fun _ _ hm => hm.1

theorem decodeMembers_map {decode : Decoder α} {encode : α → Json} {l : List (String × α)}
    (h : ∀ e ∈ l, decode (encode e.2) = .ok e.2) :
    decodeMembers decode (.object (l.map fun e => (e.1, encode e.2))) = .ok l := by
  refine decodeMembers_object_eq_ok.mpr (List.forall₂_map_left_iff.mpr (List.forall₂_same.mpr ?_))
  intro e he
  exact ⟨rfl, h e he⟩

theorem decodeMembers_takes {decode : Decoder α} {shape : Json → Prop} (h : decode.Takes shape) :
    (decodeMembers decode).Takes (MapOf shape) := by
  intro v
  cases v <;> simp [decodeMembers, mismatch, MapOf, except_mapM_isOk, except_bind_eq_ok, h _]

theorem names_of_takes {slots : List (Slot α)} {attributes : Attributes}
    (h : List.Forall₂ Slot.Takes slots attributes) : slotNames slots = attributes.map (·.1) := by
  induction h with
  | nil => rfl
  | cons hslot _ ih => simp only [slotNames, List.map_cons, hslot.1, ← ih]

theorem setMember_isOk {slots : List (Slot α)} {attributes : Attributes}
    (h : List.Forall₂ Slot.Takes slots attributes) (m : String × Json) (a : α) :
    (∃ a', setMember slots a m = .ok a') ↔
      ∀ shape, attributes.lookup m.1 = some shape → shape m.2 := by
  induction h with
  | nil => simp [setMember]
  | @cons slot known slots attributes hslot _ ih =>
    obtain ⟨name, shape⟩ := known
    obtain ⟨rfl, hset⟩ := hslot
    by_cases he : m.1 = slot.name
    · simp [setMember, ← he, hset]
    · simpa [setMember, Ne.symm he, Members.lookup_cons, he] using ih

theorem decodeMembersInto_isOk {slots : List (Slot α)} {attributes : Attributes}
    (h : List.Forall₂ Slot.Takes slots attributes) (members : List (String × Json)) (start : α) :
    (∃ a, decodeMembersInto slots start members = .ok a) ↔ Conforms attributes members :=
  except_foldlM_isOk (setMember_isOk h)

theorem decodeRecord_takes {slots : List (Slot α)} {attributes : Attributes}
    (h : List.Forall₂ Slot.Takes slots attributes) (hnames : (slotNames slots).Nodup)
    (source : Source) (name : String) (start : α) :
    (decodeRecord source name slots start).Takes (RecordOf attributes) := by
  intro v
  simp only [decodeRecord_eq_ok hnames, RecordOf, ← decodeMembersInto_isOk h _ start,
    names_of_takes h]
  constructor
  · rintro ⟨a, members, hm, ha⟩
    exact ⟨members, hm, a, ha⟩
  · rintro ⟨members, hm, a, ha⟩
    exact ⟨a, members, hm, ha⟩

theorem isGiven_array (slots : List (Slot α)) (name : String) (items : List Json) :
    isGiven slots name (.array items) = (((slotNames slots).zip items).lookup name).isSome := by
  induction slots generalizing items with
  | nil => rfl
  | cons slot slots ih =>
    cases items with
    | nil => simp [isGiven]
    | cons v items =>
      simp only [isGiven, slotNames] at ih
      by_cases he : slot.name = name
      · simp [isGiven, slotNames, List.findIdx?_cons, he]
      · simp [isGiven, slotNames, List.findIdx?_cons, Members.lookup_cons, he, Ne.symm he, ← ih,
          Option.any_map]

theorem isGiven_of_members {slots : List (Slot α)} {v : Json} {members : List (String × Json)}
    (h : membersOf? (slotNames slots) v = some members) (name : String) :
    isGiven slots name v = (members.lookup name).isSome := by
  cases v with
  | object ms =>
    cases h
    rfl
  | array items =>
    simp only [membersOf?] at h
    split at h
    · cases h
      exact isGiven_array slots name items
    · cases h
  | _ => cases h

theorem decodeStrict_takes {slots : List (Slot α)} {attributes : Attributes}
    (h : List.Forall₂ Slot.Takes slots attributes) (hnames : (slotNames slots).Nodup)
    (source : Source) (name : String) (required : List String) (start : α) :
    (decodeStrict source name slots required start).Takes (StrictRecordOf attributes required) := by
  intro v
  simp only [decodeStrict, except_bind_eq_ok, decodeRecord_eq_ok hnames, StrictRecordOf,
    ← names_of_takes h, ← decodeMembersInto_isOk h _ start]
  constructor
  · rintro ⟨a, a', ⟨members, hm, ha⟩, hgiven⟩
    refine ⟨members, hm, ⟨a', ha⟩, ?_⟩
    split at hgiven
    · cases hgiven
    · rename_i hnone
      simpa [isGiven_of_members hm] using hnone
  · rintro ⟨members, hm, ⟨a, ha⟩, hgiven⟩
    refine ⟨a, a, ⟨members, hm, ha⟩, ?_⟩
    have hnone : (required.find? fun member => !isGiven slots member v) = none := by
      simpa [isGiven_of_members hm] using hgiven
    rw [hnone]
    rfl

/-- Whether it is that of `name` or not, a slot leaves in the part of the record that `get` reads
what the member called `name` decodes to. -/
def Slot.Feeds (slot : Slot α) (name : String) (decode : Decoder β) (get : α → β) : Prop :=
  ∀ v a a', slot.set v a = .ok a' →
    if slot.name = name then decode v = .ok (get a') else get a' = get a

theorem Slot.of_feeds {γ : Type} {other name : String} {decode : Decoder β} {decode' : Decoder γ}
    {put : γ → α → α} {get : α → β} :
    (Slot.of other decode' put).Feeds name decode get ↔ ∀ v c a, decode' v = .ok c →
      if other = name then decode v = .ok (get (put c a)) else get (put c a) = get a := by
  simp only [Slot.Feeds, Slot.of, except_map_eq_ok]
  constructor
  · intro h v c a hc
    exact h v a _ ⟨c, hc, rfl⟩
  · rintro h v a _ ⟨c, hc, rfl⟩
    exact h v c a hc

/-- The member called `name` is known, and it alone decides on the part that `get` reads. -/
structure Reads (slots : List (Slot α)) (name : String) (decode : Decoder β) (get : α → β) :
    Prop where
  known : name ∈ slotNames slots
  feeds : ∀ slot ∈ slots, slot.Feeds name decode get

theorem Reads.setMember {slots : List (Slot α)} {name : String} {decode : Decoder β} {get : α → β}
    (h : Reads slots name decode get) {m : String × Json} {a a' : α}
    (hset : setMember slots a m = .ok a') :
    if m.1 = name then decode m.2 = .ok (get a') else get a' = get a := by
  simp only [Json.setMember] at hset
  split at hset
  · rename_i slot hfind
    have hname : slot.name = m.1 := by simpa using List.find?_some hfind
    exact hname ▸ h.feeds slot (List.mem_of_find?_eq_some hfind) _ _ _ hset
  · rename_i hfind
    cases hset
    obtain ⟨slot, hslot, hname⟩ := List.mem_map.mp h.known
    have hne : m.1 ≠ name := by
      rintro rfl
      exact List.find?_eq_none.mp hfind slot hslot (beq_iff_eq.mpr hname)
    simp [hne]

/-- A decoded record holds what its member decodes to, or what it started with. -/
theorem Reads.decodeMembersInto {slots : List (Slot α)} {name : String} {decode : Decoder β}
    {get : α → β} (h : Reads slots name decode get) {members : List (String × Json)}
    (hdistinct : Members.Distinct members) {start a : α}
    (hok : decodeMembersInto slots start members = .ok a) :
    (members.lookup name).elim (.ok (get start)) decode = .ok (get a) := by
  induction members generalizing start with
  | nil =>
    cases hok
    rfl
  | cons m members ih =>
    obtain ⟨key, v⟩ := m
    simp only [Json.decodeMembersInto, List.foldlM_cons, except_bind_eq_ok] at hok
    obtain ⟨next, hset, hok⟩ := hok
    have hrest := ih hdistinct.tail hok
    have hfirst := h.setMember hset
    by_cases he : key = name
    · subst he
      simp only [hdistinct.absent, Option.elim_none, Except.ok.injEq] at hrest
      simpa [← hrest] using hfirst
    · simp only [he, if_false] at hfirst
      simpa [Members.lookup_cons, Ne.symm he, ← hfirst] using hrest

/-- The items of a list that is a member. -/
def listAt (name : String) (members : List (String × Json)) : List Json :=
  ((members.lookup name).bind asArray?).getD []

theorem WellFormed.listAt {members : List (String × Json)} (h : (Json.object members).WellFormed)
    (name : String) : ∀ v ∈ listAt name members, v.WellFormed := by
  intro v hv
  simp only [Json.listAt] at hv
  cases hlookup : members.lookup name with
  | none => simp [hlookup] at hv
  | some list =>
    cases list with
    | array items => exact (h.member hlookup).items v (by simpa [hlookup, asArray?] using hv)
    | _ => simp [hlookup, asArray?] at hv

/-- A list that is read off a record is decoded from the items of its member. -/
theorem Reads.list {slots : List (Slot α)} {name : String} {decode : Decoder β}
    {get : α → List β} (h : Reads slots name (decodeList decode) get)
    {members : List (String × Json)} (hwf : (Json.object members).WellFormed) {start a : α}
    (hstart : get start = []) (hok : Json.decodeMembersInto slots start members = .ok a) :
    List.Forall₂ (fun v b => v.WellFormed ∧ decode v = .ok b)
      (Json.listAt name members) (get a) := by
  refine (List.forall₂_and_left _ _).mpr ⟨hwf.listAt name, ?_⟩
  have hread := h.decodeMembersInto hwf.distinct hok
  simp only [Json.listAt]
  cases hlookup : members.lookup name with
  | none =>
    simp only [hlookup, Option.elim_none, hstart, Except.ok.injEq] at hread
    rw [← hread]
    exact .nil
  | some list =>
    simp only [hlookup, Option.elim_some] at hread
    obtain ⟨items, rfl, hitems⟩ := decodeList_eq_ok.mp hread
    exact hitems

end AppDef.Json
