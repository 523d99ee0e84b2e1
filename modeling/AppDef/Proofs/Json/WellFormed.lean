import Mathlib.Data.List.Nodup
import AppDef.Json.Parse
import AppDef.Proofs.Outcome

namespace AppDef

namespace Members

variable {α : Type}

/-- No two members have one name. -/
def Distinct (members : List (String × α)) : Prop :=
  (members.map (·.1)).Nodup

theorem lookup_cons (key name : String) (value : α) (members : List (String × α)) :
    ((name, value) :: members).lookup key =
      if key = name then some value else members.lookup key := by
  by_cases h : key = name
  · simp [h]
  · have hne : (key == name) = false := beq_eq_false_iff_ne.mpr h
    simp [List.lookup_cons, h, hne]

/-- A member that is left out when there is no value for it. -/
theorem lookup_optional {β : Type} (key name : String) (value? : Option β) (encode : β → α) :
    (value?.toList.map fun b => (name, encode b)).lookup key =
      if key = name then value?.map encode else none := by
  cases value? <;> simp [lookup_cons]

theorem lookup_given (key name : String) (value? : Option α) :
    (value?.toList.map fun value => (name, value)).lookup key =
      if key = name then value? else none := by
  cases value? <;> simp [lookup_cons]

theorem Distinct.tail {m : String × α} {members : List (String × α)}
    (h : Distinct (m :: members)) : Distinct members :=
  (List.nodup_cons.mp h).2

/-- A name that stands first stands nowhere else. -/
theorem Distinct.absent {key : String} {value : α} {members : List (String × α)}
    (h : Distinct ((key, value) :: members)) : members.lookup key = none := by
  refine List.lookup_eq_none_iff.mpr ?_
  intro m hm
  have hne : key ≠ m.1 := by
    intro he
    exact (List.nodup_cons.mp h).1 (List.mem_map.mpr ⟨m, hm, he.symm⟩)
  simpa using hne

theorem mem_of_lookup {key : String} {value : α} {members : List (String × α)}
    (h : members.lookup key = some value) : (key, value) ∈ members := by
  obtain ⟨before, after, rfl, _⟩ := List.lookup_eq_some_iff.mp h
  simp

theorem Distinct.lookup {members : List (String × α)} (h : Distinct members) {key : String}
    {value : α} (hm : (key, value) ∈ members) : members.lookup key = some value := by
  induction members with
  | nil => cases hm
  | cons head members ih =>
    obtain ⟨habsent, _⟩ := List.nodup_cons.mp h
    rcases List.mem_cons.mp hm with rfl | hm
    · exact List.lookup_cons_self
    · have hne : key ≠ head.1 := by
        intro he
        exact habsent (List.mem_map.mpr ⟨_, hm, he⟩)
      rw [lookup_cons, if_neg hne]
      exact ih h.tail hm

theorem mem_insert {key : String} {value : α} {members : List (String × α)} {m : String × α}
    (h : m ∈ insert key value members) : m = (key, value) ∨ m ∈ members := by
  induction members with
  | nil => exact .inl (List.mem_singleton.mp h)
  | cons head members ih =>
    simp only [insert] at h
    split at h
    · rename_i he
      rcases List.mem_cons.mp h with h | h
      · exact .inl (he ▸ h)
      · exact .inr (List.mem_cons_of_mem _ h)
    · rcases List.mem_cons.mp h with h | h
      · exact .inr (h ▸ List.mem_cons_self)
      · rcases ih h with h | h
        · exact .inl h
        · exact .inr (List.mem_cons_of_mem _ h)

theorem Distinct.insert {members : List (String × α)} (h : Distinct members) (key : String)
    (value : α) : Distinct (insert key value members) := by
  induction members with
  | nil => exact List.nodup_singleton key
  | cons head members ih =>
    obtain ⟨habsent, _⟩ := List.nodup_cons.mp h
    simp only [Members.insert]
    split
    · exact h
    · rename_i hne
      refine List.nodup_cons.mpr ⟨?_, ih h.tail⟩
      intro hm
      obtain ⟨m, hm, he⟩ := List.mem_map.mp hm
      rcases mem_insert hm with rfl | hm
      · exact hne he.symm
      · exact habsent (List.mem_map.mpr ⟨m, hm, he⟩)

theorem lookup_insert (key : String) (value : α) (members : List (String × α)) (name : String) :
    (insert key value members).lookup name =
      if name = key then some value else members.lookup name := by
  induction members with
  | nil => rw [insert, lookup_cons, List.lookup_nil]
  | cons m members ih =>
    obtain ⟨k, v⟩ := m
    simp only [insert]
    by_cases hk : k = key
    · by_cases hn : name = key <;> simp [lookup_cons, hk, hn]
    · by_cases hn : name = k
      · simp [hn, hk]
      · simp [lookup_cons, hn, hk, ih]

/-- The members that are not called `name`. -/
def without (name : String) (members : List (String × α)) : List (String × α) :=
  members.filter (·.1 != name)

theorem lookup_without (name : String) (members : List (String × α)) (key : String) :
    (without name members).lookup key = if key = name then none else members.lookup key := by
  induction members with
  | nil => simp [without]
  | cons m members ih =>
    obtain ⟨k, v⟩ := m
    simp only [without] at ih
    by_cases hk : k = name
    · rw [without, List.filter_cons_of_neg (by simp [hk]), ih, lookup_cons, hk]
      split <;> rfl
    · rw [without, List.filter_cons_of_pos (by simp [hk]), lookup_cons, ih, lookup_cons]
      by_cases he : key = k
      · rw [if_pos he, if_neg (he ▸ hk), if_pos he]
      · rw [if_neg he, if_neg he]

/-- Members that are inserted one after the other. -/
theorem foldl_insert_keeps (members acc : List (String × α)) (h : Distinct acc) :
    Distinct (members.foldl (fun acc m => Members.insert m.1 m.2 acc) acc) ∧
      ∀ m ∈ members.foldl (fun acc m => Members.insert m.1 m.2 acc) acc, m ∈ acc ∨ m ∈ members := by
  induction members generalizing acc with
  | nil => exact ⟨h, fun m hm => .inl hm⟩
  | cons m' members ih =>
    obtain ⟨hdistinct, hmem⟩ := ih (Members.insert m'.1 m'.2 acc) (h.insert m'.1 m'.2)
    refine ⟨hdistinct, ?_⟩
    intro m hm
    rcases hmem m hm with hm | hm
    · rcases mem_insert hm with rfl | hm
      · exact .inr List.mem_cons_self
      · exact .inl hm
    · exact .inr (List.mem_cons_of_mem _ hm)

theorem distinct_ofList (members : List (String × α)) : Distinct (ofList members) :=
  (foldl_insert_keeps members [] List.nodup_nil).1

theorem mem_ofList {members : List (String × α)} {m : String × α} (h : m ∈ ofList members) :
    m ∈ members := by
  rcases (foldl_insert_keeps members [] List.nodup_nil).2 m h with h | h
  · cases h
  · exact h

theorem distinct_zip {names : List String} (h : names.Nodup) (values : List α) :
    Distinct (names.zip values) := by
  induction names generalizing values with
  | nil => exact List.nodup_nil
  | cons name names ih =>
    obtain ⟨habsent, h⟩ := List.nodup_cons.mp h
    cases values with
    | nil => exact List.nodup_nil
    | cons value values =>
      refine List.nodup_cons.mpr ⟨?_, ih h values⟩
      intro hm
      obtain ⟨⟨_, _⟩, hzip, rfl⟩ := List.mem_map.mp hm
      exact habsent (List.of_mem_zip hzip).1

end Members

namespace Json

/-- No object in the value, at any depth, names a member twice. -/
inductive WellFormed : Json → Prop
  | null : WellFormed .null
  | bool (b) : WellFormed (.bool b)
  | number (n) : WellFormed (.number n)
  | text (s) : WellFormed (.text s)
  | array {items} : (∀ v ∈ items, WellFormed v) → WellFormed (.array items)
  | object {members} : Members.Distinct members → (∀ m ∈ members, WellFormed m.2) →
      WellFormed (.object members)

theorem wellFormed_array_iff {items : List Json} :
    (Json.array items).WellFormed ↔ ∀ v ∈ items, v.WellFormed := by
  constructor
  · rintro ⟨⟩
    assumption
  · exact .array

theorem wellFormed_object_iff {members : List (String × Json)} :
    (Json.object members).WellFormed ↔
      Members.Distinct members ∧ ∀ m ∈ members, m.2.WellFormed := by
  constructor
  · rintro ⟨⟩
    constructor <;> assumption
  · rintro ⟨hdistinct, hvalues⟩
    exact .object hdistinct hvalues

theorem WellFormed.items {items : List Json} (h : (Json.array items).WellFormed) :
    ∀ v ∈ items, v.WellFormed :=
  wellFormed_array_iff.mp h

theorem WellFormed.distinct {members : List (String × Json)}
    (h : (Json.object members).WellFormed) : Members.Distinct members :=
  (wellFormed_object_iff.mp h).1

theorem WellFormed.member {members : List (String × Json)} (h : (Json.object members).WellFormed)
    {key : String} {v : Json} (hv : members.lookup key = some v) : v.WellFormed :=
  (wellFormed_object_iff.mp h).2 _ (Members.mem_of_lookup hv)

theorem wellFormed_map {α : Type} {encode : α → Json} {l : List α}
    (h : ∀ a ∈ l, (encode a).WellFormed) : (Json.array (l.map encode)).WellFormed :=
  .array (List.forall_mem_map.mpr h)

/-- Well-formed values under some of the names, in the order of these. -/
structure Written (names : List String) (members : List (String × Json)) : Prop where
  names : (members.map (·.1)).Sublist names
  values : ∀ m ∈ members, m.2.WellFormed

theorem wellFormed_of_written (names : List String) {members : List (String × Json)}
    (hnames : names.Nodup) (h : Written names members) : (Json.object members).WellFormed :=
  .object (hnames.sublist h.names) h.values

theorem Written.nil : Written [] [] :=
  ⟨.refl _, fun _ h => absurd h List.not_mem_nil⟩

theorem Written.cons {name : String} {v : Json} (hv : v.WellFormed) {names : List String}
    {members : List (String × Json)} (h : Written names members) :
    Written (name :: names) ((name, v) :: members) :=
  ⟨h.names.cons_cons name, List.forall_mem_cons.mpr ⟨hv, h.values⟩⟩

theorem Written.skip {name : String} {names : List String} {members : List (String × Json)}
    (h : Written names members) : Written (name :: names) members :=
  ⟨h.names.cons name, h.values⟩

theorem Written.optional {β : Type} {name : String} {value? : Option β} {encode : β → Json}
    (hv : ∀ b, value? = some b → (encode b).WellFormed) {names : List String}
    {members : List (String × Json)} (h : Written names members) :
    Written (name :: names) ((value?.toList.map fun b => (name, encode b)) ++ members) := by
  cases value? with
  | none => exact h.skip
  | some b => exact h.cons (hv b rfl)

theorem Written.last {β : Type} {name : String} {value? : Option β} {encode : β → Json}
    (hv : ∀ b, value? = some b → (encode b).WellFormed) :
    Written [name] (value?.toList.map fun b => (name, encode b)) := by
  have h : Written [name] ((value?.toList.map fun b => (name, encode b)) ++ []) :=
    .optional hv .nil
  rwa [List.append_nil] at h

namespace Read

/-- What is read with so much fuel is well formed: values, items and members at once. -/
structure YieldsWellFormed (fuel : Nat) : Prop where
  ofValue : ∀ {depth s v rest}, value fuel depth s = .ok (v, rest) → v.WellFormed
  ofItems : ∀ {depth first s vs rest}, items fuel depth first s = .ok (vs, rest) →
    ∀ v ∈ vs, v.WellFormed
  ofMembers : ∀ {depth first s ms rest}, members fuel depth first s = .ok (ms, rest) →
    ∀ m ∈ ms, m.2.WellFormed

variable {fuel depth : Nat} {first : Bool} {s rest : List Char}

theorem wellFormed_of_map {α : Type} {read : Except Failure (α × List Char)} {make : α → Json}
    {v : Json} (hmake : ∀ a, (make a).WellFormed)
    (h : (read.map fun (a, r) => (make a, r)) = .ok (v, rest)) : v.WellFormed := by
  obtain ⟨_, _, he⟩ := except_map_eq_ok.mp h
  cases he
  exact hmake _

theorem YieldsWellFormed.value_succ {v : Json} (h : YieldsWellFormed fuel)
    (hv : value (fuel + 1) depth s = .ok (v, rest)) : v.WellFormed := by
  simp only [value] at hv
  split at hv
  · cases hv
  · exact wellFormed_of_map (fun _ => .null) hv
  · exact wellFormed_of_map (fun _ => .bool true) hv
  · exact wellFormed_of_map (fun _ => .bool false) hv
  · exact wellFormed_of_map .number hv
  · exact wellFormed_of_map .text hv
  · split at hv
    · cases hv
    · obtain ⟨⟨vs, r⟩, hvs, hclose⟩ := except_bind_eq_ok.mp hv
      obtain ⟨_, _, he⟩ := except_bind_eq_ok.mp hclose
      cases he
      exact .array (h.ofItems hvs)
  · split at hv
    · cases hv
    · obtain ⟨⟨ms, r⟩, hms, hclose⟩ := except_bind_eq_ok.mp hv
      obtain ⟨_, _, he⟩ := except_bind_eq_ok.mp hclose
      cases he
      exact .object (Members.distinct_ofList ms) fun m hm =>
        h.ofMembers hms m (Members.mem_ofList hm)
  · split at hv
    · exact wellFormed_of_map .number hv
    · cases hv

theorem YieldsWellFormed.items_succ {vs : List Json} (h : YieldsWellFormed fuel)
    (hvs : items (fuel + 1) depth first s = .ok (vs, rest)) : ∀ v ∈ vs, v.WellFormed := by
  simp only [items] at hvs
  obtain ⟨next, _, hvs⟩ := except_bind_eq_ok.mp hvs
  cases next with
  | close r =>
    cases hvs
    exact fun v hv => absurd hv List.not_mem_nil
  | item r =>
    obtain ⟨⟨v, _⟩, hv, hvs⟩ := except_bind_eq_ok.mp hvs
    obtain ⟨⟨vs, _⟩, hrest, hvs⟩ := except_bind_eq_ok.mp hvs
    cases hvs
    exact List.forall_mem_cons.mpr ⟨h.ofValue hv, h.ofItems hrest⟩

theorem YieldsWellFormed.members_succ {ms : List (String × Json)} (h : YieldsWellFormed fuel)
    (hms : members (fuel + 1) depth first s = .ok (ms, rest)) : ∀ m ∈ ms, m.2.WellFormed := by
  simp only [members] at hms
  obtain ⟨next, _, hms⟩ := except_bind_eq_ok.mp hms
  cases next with
  | close r =>
    cases hms
    exact fun m hm => absurd hm List.not_mem_nil
  | item r =>
    obtain ⟨⟨key, _⟩, _, hms⟩ := except_bind_eq_ok.mp hms
    obtain ⟨_, _, hms⟩ := except_bind_eq_ok.mp hms
    obtain ⟨⟨v, _⟩, hv, hms⟩ := except_bind_eq_ok.mp hms
    obtain ⟨⟨ms, _⟩, hrest, hms⟩ := except_bind_eq_ok.mp hms
    cases hms
    exact List.forall_mem_cons.mpr ⟨h.ofValue hv, h.ofMembers hrest⟩

theorem yieldsWellFormed (fuel : Nat) : YieldsWellFormed fuel := by
  induction fuel with
  | zero =>
    constructor
    · intro _ _ _ _ h
      cases h
    · intro _ _ _ _ _ h
      cases h
    · intro _ _ _ _ _ h
      cases h
  | succ fuel ih => exact ⟨ih.value_succ, ih.items_succ, ih.members_succ⟩

end Read

/-- A text never writes an object with two members of one name. -/
theorem read_wellFormed {text : String} {v : Json} (h : read text = .ok v) : v.WellFormed := by
  have hparse : parse text = .ok v := except_mapError_eq_ok.mp h
  obtain ⟨⟨v', rest⟩, hv, hfinish⟩ := except_bind_eq_ok.mp hparse
  simp only [Read.finish] at hfinish
  split at hfinish
  · cases hfinish
    exact (Read.yieldsWellFormed _).ofValue hv
  · cases hfinish

end Json

end AppDef
