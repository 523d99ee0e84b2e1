import AppDef.Proofs.Document.Verdict

namespace AppDef

open Json (IsText IsFlag IsObject)

namespace Members

variable {α : Type} {members : List (String × α)} {name : String}

/-- Members that are chosen by their names are the same without one that is not chosen. -/
theorem filter_without {p : String → Bool} (h : p name = false) (members : List (String × α)) :
    (without name members).filter (fun m => p m.1) = members.filter fun m => p m.1 := by
  rw [without, List.filter_filter]
  refine List.filter_congr fun m _ => ?_
  by_cases hm : m.1 = name <;> simp [hm, h]

theorem filter_adjust {p : String → Bool} (h : p name = false) (f : α → α)
    (members : List (String × α)) :
    (adjust name f members).filter (fun m => p m.1) = members.filter fun m => p m.1 := by
  induction members with
  | nil => rfl
  | cons m members ih =>
    simp only [adjust] at ih
    by_cases hm : m.1 = name
    · simp [adjust, hm, h, ih]
    · simp [adjust, hm, List.filter_cons, ih]

end Members

def Json.without (name : String) : Json → Json
  | .object members => .object (Members.without name members)
  | v => v

namespace Constraints

inductive Attribute where
  | min
  | max
  | pattern
  | message
  deriving DecidableEq

namespace Attribute

def member : Attribute → String
  | .min => "min"
  | .max => "max"
  | .pattern => "pattern"
  | .message => "message"

/-- The shape of the attribute: a number, or a text that writes a finite one, and a text. -/
def Fits : Attribute → Json → Prop
  | .min, v | .max, v => (∃ n, v = .number n) ∨
      ∃ s x, v = .text s ∧ Number.read? (Text.trimmed s) = some x ∧ x.isFinite = true
  | .pattern, v | .message, v => IsText v

end Attribute

variable {members : List (String × Json)} {v : Json}

theorem bound?_of_not_fits (h : ¬ Attribute.min.Fits v) : bound? v = .none := by
  cases hb : bound? v with
  | none => rfl
  | some x =>
    refine absurd ?_ h
    cases v with
    | number n => exact .inl ⟨n, rfl⟩
    | text s =>
      simp only [bound?] at hb
      obtain ⟨hread, hfinite⟩ := Option.filter_eq_some_iff.mp hb
      exact .inr ⟨s, x, rfl, hread, hfinite⟩
    | null | bool | array | object => cases hb

end Constraints

theorem Json.asText?_of_not_isText {v : Json} (h : ¬ IsText v) : v.asText? = none := by
  cases v with
  | text s => exact absurd ⟨s, rfl⟩ h
  | null | bool | number | array | object => rfl

/-- An attribute of constraints that does not have its shape reads as if it were absent. -/
theorem Constraints.ofMembers_without {members : List (String × Json)} {v : Json}
    (a : Attribute) (hv : members.lookup a.member = some v) (hfits : ¬ a.Fits v) :
    ofMembers (Members.without a.member members) = ofMembers members := by
  cases a with
  | min | max =>
    have hread := bound?_of_not_fits hfits
    simp_all [ofMembers, Attribute.member, Members.lookup_without]
  | pattern | message =>
    have hread := Json.asText?_of_not_isText hfits
    simp_all [ofMembers, Attribute.member, Members.lookup_without]

namespace Field

inductive Attribute where
  | name
  | label
  | kind
  | placeholder
  | required
  | options
  | constraints
  /-- An attribute of the constraints. -/
  | within (a : Constraints.Attribute)
  deriving DecidableEq

namespace Attribute

/-- The member of a field in which the attribute stands. -/
def member : Attribute → String
  | .name => "name"
  | .label => "label"
  | .kind => "type"
  | .placeholder => "placeholder"
  | .required => "required"
  | .options => "options"
  | .constraints | .within _ => "validation"

theorem member_mem (a : Attribute) : a.member ∈ memberNames := by
  cases a <;> simp [member, memberNames]

def value? (members : List (String × Json)) : Attribute → Option Json
  | .within a => (members.lookup "validation").bind (·.member? a.member)
  | a => members.lookup a.member

/-- The members of a field without the attribute. -/
def erase (members : List (String × Json)) : Attribute → List (String × Json)
  | .within a => Members.adjust "validation" (Json.without a.member) members
  | a => Members.without a.member members

def Fits : Attribute → Json → Prop
  | .name, v | .label, v | .kind, v | .placeholder, v => IsText v
  | .required, v => IsFlag v ∨ IsText v
  | .options, v => ∃ entries, v = .array entries
  | .constraints, v => IsObject v
  | .within a, v => a.Fits v

end Attribute

/-- A list that is not too long for constraints. -/
def IsBoundsList (v : Json) : Prop :=
  ∃ items, v = .array items ∧ items.length ≤ 4

variable {members : List (String × Json)} {v : Json}

theorem flagOf_of_not_fits (h : ¬ Attribute.required.Fits v) : flagOf v = false := by
  cases v with
  | bool b => exact absurd (.inl ⟨b, rfl⟩) h
  | text s => exact absurd (.inr ⟨s, rfl⟩) h
  | null | number | array | object => rfl

theorem optionsOf_of_not_fits (h : ¬ Attribute.options.Fits v) : optionsOf v = [] := by
  cases v with
  | array entries => exact absurd ⟨entries, rfl⟩ h
  | null | bool | number | text | object => rfl

/-- What is no object is read as constraints only if it is a list, and one of up to four items. -/
theorem ofJson?_eq_none_iff (h : ¬ IsObject v) :
    Constraints.ofJson? v = none ↔ ¬ IsBoundsList v := by
  cases v with
  | object members => exact absurd ⟨members, rfl⟩ h
  | array items =>
    by_cases hlong : 4 < items.length
    · simp [Constraints.ofJson?, IsBoundsList, hlong]
    · simp [Constraints.ofJson?, IsBoundsList, hlong, Nat.le_of_not_lt hlong]
  | null | bool | number | text => simp [Constraints.ofJson?, IsBoundsList]

/-- What is kept uninterpreted does not depend on the members that are attributes. -/
theorem extra_without {name : String} (hname : name ∈ memberNames)
    (members : List (String × Json)) :
    (ofMembers (Members.without name members)).extra = (ofMembers members).extra := by
  have hp : (!memberNames.contains name) = false := by simpa using hname
  simp only [ofMembers]
  rw [Members.filter_without (p := fun name => !memberNames.contains name) hp]

theorem ofMembers_within (a : Constraints.Attribute)
    (hv : (Attribute.within a).value? members = some v) (hfits : ¬ a.Fits v) :
    ofMembers ((Attribute.within a).erase members) = ofMembers members := by
  obtain ⟨bounds, hbounds, hmember⟩ := Option.bind_eq_some_iff.mp hv
  have hread : Constraints.ofJson? (Json.without a.member bounds) = Constraints.ofJson? bounds := by
    cases bounds with
    | object entries =>
      exact congrArg some (Constraints.ofMembers_without a hmember hfits)
    | null | bool | number | text | array => rfl
  simp only [ofMembers, Attribute.erase, Members.lookup_adjust, hbounds]
  rw [Members.filter_adjust (p := fun name => !memberNames.contains name) (by decide)]
  simp [hread]

theorem ofMembers_erase (a : Attribute) (hv : a.value? members = some v) (hfits : ¬ a.Fits v)
    (hlist : ¬ (a = .constraints ∧ IsBoundsList v)) :
    ofMembers (a.erase members) = ofMembers members := by
  have hextra := extra_without a.member_mem members
  cases a with
  | name | label | kind | placeholder =>
    have hread := Json.asText?_of_not_isText hfits
    simp_all [ofMembers, Attribute.erase, Attribute.member, Attribute.value?,
      Members.lookup_without]
  | required =>
    have hread := flagOf_of_not_fits hfits
    simp_all [ofMembers, Attribute.erase, Attribute.member, Attribute.value?,
      Members.lookup_without]
  | options =>
    have hread := optionsOf_of_not_fits hfits
    simp_all [ofMembers, Attribute.erase, Attribute.member, Attribute.value?,
      Members.lookup_without]
  | constraints =>
    have hread := (ofJson?_eq_none_iff hfits).mpr fun h => hlist ⟨rfl, h⟩
    simp_all [ofMembers, Attribute.erase, Attribute.member, Attribute.value?,
      Members.lookup_without]
  | within a => exact ofMembers_within a hv hfits

/-- A list in the place of constraints is not read as if it were absent. -/
theorem ofMembers_erase_ne (hv : members.lookup "validation" = some v) (hfits : ¬ IsObject v)
    (hlist : IsBoundsList v) :
    ofMembers (Attribute.constraints.erase members) ≠ ofMembers members := by
  intro h
  have hread : Constraints.ofJson? v = none := by
    have hbounds := congrArg Field.constraints h
    simpa [ofMembers, Attribute.erase, Attribute.member, Members.lookup_without, hv,
      eq_comm (a := none)] using hbounds
  exact (ofJson?_eq_none_iff hfits).mp hread hlist

/-- Every object is a field. An attribute of it that does not have its shape reads as if it were
absent, but for a list of up to four items in the place of constraints. -/
theorem misshapen_reads_as_absent (members : List (String × Json)) :
    (∃ f, decode (.object members) = .ok f) ∧
    ∀ (a : Attribute) (v : Json), a.value? members = some v → ¬ a.Fits v →
      (decode (.object members) = decode (.object (a.erase members)) ↔
        ¬ (a = .constraints ∧ IsBoundsList v)) := by
  refine ⟨⟨_, rfl⟩, fun a v hv hfits => ?_⟩
  simp only [decode, Except.ok.injEq]
  constructor
  · rintro h ⟨rfl, hlist⟩
    exact ofMembers_erase_ne hv hfits hlist h.symm
  · intro hlist
    exact (ofMembers_erase a hv hfits hlist).symm

/-- A field of which nothing but the name and the minimum has its shape. -/
def quantity : List (String × Json) :=
  [("name", .text "qty"), ("label", .null), ("type", .number (.whole 3)),
    ("placeholder", .array [.text "x"]), ("required", .number (.whole 1)),
    ("options", .object [("value", .text "1")]),
    ("validation", .object [("min", .text "1"), ("max", .text "ten"), ("pattern", .bool true)])]

theorem misshapen_reads_as_absent_quantity :
    let max := Attribute.within .max
    max.value? quantity = some (.text "ten") ∧ ¬ max.Fits (.text "ten") ∧
      decode (.object quantity) = decode (.object (max.erase quantity)) := by
  have hread : Number.read? (Text.trimmed "ten") = none := by decide +kernel
  have hfits : ¬ (Attribute.within .max).Fits (.text "ten") := by
    rintro (⟨n, h⟩ | ⟨s, x, h, hx, _⟩)
    · cases h
    · cases h
      rw [hread] at hx
      cases hx
  have habsent := (misshapen_reads_as_absent quantity).2 (.within .max) (.text "ten") rfl hfits
  exact ⟨rfl, hfits, habsent.mpr fun h => by cases h.1⟩

/-- A list with a minimum in the place of constraints. -/
def listed : List (String × Json) :=
  [("name", .text "qty"), ("label", .text "Quantity"), ("type", .text "number"),
    ("validation", .array [.number (.whole 1)])]

/-- The list sets a minimum, and without it there is none. -/
theorem list_reads_as_constraints :
    Attribute.constraints.value? listed = some (.array [.number (.whole 1)]) ∧
      ¬ Attribute.constraints.Fits (.array [.number (.whole 1)]) ∧
      ((ofMembers listed).constraints.bind (·.min)).isSome = true ∧
      (ofMembers (Attribute.constraints.erase listed)).constraints = none ∧
      decode (.object listed) ≠ decode (.object (Attribute.constraints.erase listed)) := by
  have hmin : ((ofMembers listed).constraints.bind (·.min)).isSome = true := by decide +kernel
  have hnone : (ofMembers (Attribute.constraints.erase listed)).constraints = none := rfl
  refine ⟨rfl, ?_, hmin, hnone, ?_⟩
  · rintro ⟨members, h⟩
    cases h
  · intro h
    simp only [decode, Except.ok.injEq] at h
    rw [h, hnone] at hmin
    cases hmin

end Field

end AppDef
