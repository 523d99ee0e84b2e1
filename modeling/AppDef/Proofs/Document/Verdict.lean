import AppDef.Proofs.Document.Acceptance

namespace AppDef

open Json (Attributes IsObject ListOf RecordOf Conforms)

/-- The members with `f` applied to the values of those called `name`. -/
def Members.adjust {α : Type} (name : String) (f : α → α) (members : List (String × α)) :
    List (String × α) :=
  members.map fun m => (m.1, if m.1 = name then f m.2 else m.2)

theorem Members.lookup_adjust {α : Type} (name : String) (f : α → α) (members : List (String × α))
    (key : String) : (adjust name f members).lookup key =
      if key = name then (members.lookup key).map f else members.lookup key := by
  induction members with
  | nil => simp [adjust]
  | cons m members ih =>
    obtain ⟨k, v⟩ := m
    simp only [adjust] at ih
    by_cases h : key = k
    · subst h
      by_cases he : key = name <;> simp [adjust, he]
    · simp [adjust, lookup_cons, h, ih]

def Json.mapItems (f : Json → Json) : Json → Json
  | .array items => .array (items.map f)
  | v => v

section Refill

variable (fill : List (String × Json) → List (String × Json))

/-- An object with the members that `fill` puts in the place of its own. -/
def Field.refill : Json → Json
  | .object members => .object (fill members)
  | v => v

/-- A step with other members in the objects of its fields. -/
def WizardStep.refill : Json → Json
  | .object members => .object (Members.adjust "fields" (Json.mapItems (Field.refill fill)) members)
  | .array items => .array (items.modify 2 (Json.mapItems (Field.refill fill)))
  | v => v

def Section.refillMembers (members : List (String × Json)) : List (String × Json) :=
  match kindOf? members with
  | some .form => Members.adjust "fields" (Json.mapItems (Field.refill fill)) members
  | some .calculator => Members.adjust "inputs" (Json.mapItems (Field.refill fill)) members
  | some .wizard => Members.adjust "steps" (Json.mapItems (WizardStep.refill fill)) members
  | _ => members

/-- A section with other members in the objects of its fields. -/
def Section.refill : Json → Json
  | .object members => .object (refillMembers fill members)
  | v => v

/-- A document with other members in the objects of its fields. -/
def Document.refill : Json → Json
  | .object root => .object (Members.adjust "sections" (Json.mapItems (Section.refill fill)) root)
  | v => v

theorem Json.Conforms.adjust {attributes : Attributes} {name : String} {f : Json → Json}
    (h : ∀ shape, attributes.lookup name = some shape → ∀ v, shape (f v) ↔ shape v)
    (members : List (String × Json)) :
    Conforms attributes (Members.adjust name f members) ↔ Conforms attributes members := by
  simp only [Conforms, Members.adjust, List.forall_mem_map]
  refine forall₂_congr fun m _ => forall₂_congr fun shape hshape => ?_
  by_cases he : m.1 = name
  · rw [if_pos he]
    exact h shape (he ▸ hshape) m.2
  · rw [if_neg he]

theorem Json.ListOf.mapItems {shape : Json → Prop} {f : Json → Json}
    (h : ∀ v, shape (f v) ↔ shape v) (v : Json) :
    ListOf shape (Json.mapItems f v) ↔ ListOf shape v := by
  cases v <;> simp [ListOf, Json.mapItems, h]

theorem Field.isObject_refill (v : Json) :
    IsObject (refill fill v) ↔ IsObject v := by
  cases v <;> simp [IsObject, refill]

theorem WizardStep.membersOf_refill (v : Json) :
    Json.membersOf? (attributes.map (·.1)) (refill fill v) =
      (Json.membersOf? (attributes.map (·.1)) v).map
        (Members.adjust "fields" (Json.mapItems (Field.refill fill))) := by
  cases v with
  | array items =>
    -- A step has three members, so a list of it is gone through item by item.
    rcases items with _ | ⟨title, _ | ⟨description, _ | ⟨fields, _ | ⟨_, _⟩⟩⟩⟩ <;>
      simp [Json.membersOf?, refill, attributes, Members.adjust]
  | _ => rfl

theorem WizardStep.recordOf_refill (v : Json) :
    RecordOf attributes (refill fill v) ↔ RecordOf attributes v := by
  have hfields : ∀ shape, attributes.lookup "fields" = some shape →
      ∀ v, shape (Json.mapItems (Field.refill fill) v) ↔ shape v := by
    rintro shape ⟨⟩
    exact Json.ListOf.mapItems (Field.isObject_refill fill)
  simp [RecordOf, membersOf_refill, Json.Conforms.adjust hfields]

theorem Section.kindOf?_refillMembers (members : List (String × Json)) :
    kindOf? (refillMembers fill members) = kindOf? members := by
  unfold refillMembers
  split <;> simp [kindOf?, Members.lookup_adjust]

theorem Section.conforms_refillMembers {members : List (String × Json)} {kind : SectionKind}
    (h : kindOf? members = some kind) :
    Conforms kind.attributes (refillMembers fill members) ↔ Conforms kind.attributes members := by
  simp only [refillMembers, h]
  cases kind with
  | form =>
    refine Json.Conforms.adjust ?_ members
    rintro shape ⟨⟩
    exact Json.ListOf.mapItems (Field.isObject_refill fill)
  | calculator =>
    refine Json.Conforms.adjust ?_ members
    rintro shape ⟨⟩
    exact Json.ListOf.mapItems (Field.isObject_refill fill)
  | wizard =>
    refine Json.Conforms.adjust ?_ members
    rintro shape ⟨⟩
    exact Json.ListOf.mapItems (WizardStep.recordOf_refill fill)
  | _ => rfl

theorem Section.isSection_refill (v : Json) : IsSection (refill fill v) ↔ IsSection v := by
  cases v with
  | object members =>
    simp only [refill, isSection_object_iff, kindOf?_refillMembers]
    refine exists_congr fun kind => and_congr_right fun hkind => ?_
    exact conforms_refillMembers fill hkind
  | _ => rfl

theorem Document.member?_refill {raw : Json} {key : String} :
    (refill fill raw).member? key = if key = "sections"
      then (raw.member? key).map (Json.mapItems (Section.refill fill)) else raw.member? key := by
  cases raw with
  | object root => exact Members.lookup_adjust _ _ _ _
  | _ => simp [refill, Json.member?]

theorem Document.acceptable_refill (raw : Json) :
    Acceptable (refill fill raw) ↔ Acceptable raw := by
  have hmeta : (refill fill raw).member? "meta" = raw.member? "meta" := by
    simp [member?_refill]
  have hidentified : Identified (refill fill raw) ↔ Identified raw := by
    simp only [Identified, hmeta]
  have hlisted : (∃ sections, (refill fill raw).member? "sections" = some (.array sections)) ↔
      ∃ sections, raw.member? "sections" = some (.array sections) := by
    simp only [member?_refill, if_true]
    cases raw.member? "sections" with
    | none => simp
    | some v => cases v <;> simp [Json.mapItems]
  have hconforms : (∃ root, refill fill raw = .object root ∧ Conforms attributes root) ↔
      ∃ root, raw = .object root ∧ Conforms attributes root := by
    cases raw with
    | object root =>
      have hsections : ∀ shape, attributes.lookup "sections" = some shape →
          ∀ v, shape (Json.mapItems (Section.refill fill) v) ↔ shape v := by
        rintro shape ⟨⟩
        exact Json.ListOf.mapItems (Section.isSection_refill fill)
      simp [refill, Json.Conforms.adjust hsections]
    | _ => rfl
  constructor
  · rintro ⟨h₁, h₂, h₃⟩
    exact ⟨hidentified.mp h₁, hlisted.mp h₂, hconforms.mp h₃⟩
  · rintro ⟨h₁, h₂, h₃⟩
    exact ⟨hidentified.mpr h₁, hlisted.mpr h₂, hconforms.mpr h₃⟩

end Refill

/-- A value is accepted exactly when it is acceptable; otherwise the first fault of its skeleton is
the error, or the value is malformed when its skeleton is sound. A field may be any object, so no
change inside of fields makes a difference. -/
theorem Document.ofJson_verdict (raw : Json) :
    ((∃ d, ofJson raw = .ok d) ↔ Acceptable raw) ∧
      (∀ e, (ofJson raw = .error e ∧ ∀ message, e ≠ .malformed message) ↔ SkeletonFault raw e) ∧
      ((∃ message, ofJson raw = .error (.malformed message)) ↔
        Skeleton raw ∧ ¬ Acceptable raw) ∧
      (∀ entry, (∃ f, Field.decode entry = .ok f) ↔ IsObject entry) ∧
      (∀ fill, (∃ d, ofJson (refill fill raw) = .ok d) ↔ ∃ d, ofJson raw = .ok d) := by
  refine ⟨ofJson_isOk raw, fun e => fault_iff.symm, ?_, Field.decode_takes, ?_⟩
  · rw [malformed_iff, ofJson_isOk]
  · intro fill
    rw [ofJson_isOk, ofJson_isOk, acceptable_refill]

end AppDef
