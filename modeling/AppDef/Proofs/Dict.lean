import AppDef.Dict
import AppDef.Proofs.Json.WellFormed

namespace AppDef.Dict

variable {α : Type}

theorem distinct (d : Dict α) : Members.Distinct d.entries :=
  List.pairwise_map.mpr (d.sorted.imp String.ne_of_lt)

theorem ext_entries {d e : Dict α} (h : d.entries = e.entries) : d = e := by
  cases d
  cases e
  cases h
  rfl

theorem mem_entries_iff {d : Dict α} {e : String × α} : e ∈ d.entries ↔ d.get? e.1 = some e.2 :=
  ⟨d.distinct.lookup, Members.mem_of_lookup⟩

/-- Maps that have the same under every name are equal. -/
theorem ext_get? {d e : Dict α} (h : ∀ name, d.get? name = e.get? name) : d = e := by
  have hmem (m : String × α) : m ∈ d.entries ↔ m ∈ e.entries := by
    rw [mem_entries_iff, mem_entries_iff, h]
  have hnodup (d : Dict α) : d.entries.Nodup :=
    d.sorted.imp fun hlt he => String.ne_of_lt hlt (congrArg _ he)
  have hperm := (List.perm_ext_iff_of_nodup (hnodup d) (hnodup e)).mpr hmem
  refine ext_entries (hperm.eq_of_pairwise ?_ d.sorted e.sorted)
  intro a b _ _ hab hba
  exact absurd hba (String.lt_asymm hab)

theorem lookup_put (name : String) (value : α) (l : List (String × α)) (key : String) :
    (put name value l).lookup key = if key = name then some value else l.lookup key := by
  induction l with
  | nil => by_cases h : key = name <;> simp [put, Members.lookup_cons, h]
  | cons p l ih =>
    obtain ⟨k, v⟩ := p
    simp only [put]
    split
    · by_cases h : key = name <;> simp [Members.lookup_cons, h]
    · split
      · rename_i _ he
        subst he
        by_cases h : key = name <;> simp [Members.lookup_cons, h]
      · rename_i _ hne
        by_cases h : key = k
        · simp [h, Ne.symm hne]
        · simp [Members.lookup_cons, h, ih]

theorem get?_insert (d : Dict α) (name : String) (value : α) (key : String) :
    (d.insert name value).get? key = if key = name then some value else d.get? key :=
  lookup_put name value d.entries key

theorem contains_insert (d : Dict α) (name : String) (value : α) (key : String) :
    (d.insert name value).contains key = (key == name || d.contains key) := by
  rw [contains, contains, get?_insert]
  by_cases h : key = name <;> simp [h]

theorem get?_erase (d : Dict α) (name key : String) :
    (d.erase name).get? key = if key = name then none else d.get? key :=
  Members.lookup_without name d.entries key

/-- Entries that are inserted one after the other hide what was there under their names. -/
theorem get?_foldl_insert {l : List (String × α)} (h : Members.Distinct l) (d : Dict α)
    (key : String) : (l.foldl (fun d e => d.insert e.1 e.2) d).get? key =
      (l.lookup key).or (d.get? key) := by
  induction l generalizing d with
  | nil => rfl
  | cons e l ih =>
    obtain ⟨k, v⟩ := e
    rw [List.foldl_cons, ih h.tail, get?_insert]
    by_cases he : key = k
    · subst he
      simp [h.absent]
    · simp [Members.lookup_cons, he]

/-- A name that the upper map has is looked up there. -/
theorem get?_overlay (d e : Dict α) (key : String) :
    (d.overlay e).get? key = (e.get? key).or (d.get? key) :=
  get?_foldl_insert e.distinct d key

/-- A name that is given a value twice has the second one. -/
theorem insert_insert (d : Dict α) (name : String) (value value' : α) :
    (d.insert name value).insert name value' = d.insert name value' := by
  refine ext_entries ?_
  change put name value' (put name value d.entries) = put name value' d.entries
  induction d.entries with
  | nil => simp [put]
  | cons e l ih =>
    obtain ⟨k, v⟩ := e
    by_cases hlt : name < k
    · simp [put, hlt]
    · by_cases he : name = k <;> simp [put, hlt, he, ih]

section Values

variable {P : α → Prop} {d : Dict α}

theorem forall_insert (h : ∀ name v, d.get? name = some v → P v) {value : α} (hvalue : P value)
    (name : String) : ∀ key v, (d.insert name value).get? key = some v → P v := by
  intro key v hget
  rw [get?_insert] at hget
  split at hget
  · cases hget
    exact hvalue
  · exact h key v hget

theorem forall_erase (h : ∀ name v, d.get? name = some v → P v) (name : String) :
    ∀ key v, (d.erase name).get? key = some v → P v := by
  intro key v hget
  rw [get?_erase] at hget
  split at hget
  · cases hget
  · exact h key v hget

end Values

/-- A map made of entries with distinct names has each of them. -/
theorem get?_ofList {l : List (String × α)} (h : Members.Distinct l) (key : String) :
    (ofList l).get? key = l.lookup key := by
  simpa [ofList, get?, empty] using get?_foldl_insert h empty key

theorem mem_keys_iff {d : Dict α} {name : String} : name ∈ d.keys ↔ (d.get? name).isSome = true := by
  simp only [keys, get?, List.lookup_isSome_iff, List.mem_map, beq_iff_eq, eq_comm (a := name)]

/-- The keys of a map made of entries are the names that stand in them. -/
theorem mem_keys_ofList {l : List (String × α)} {name : String} :
    name ∈ (ofList l).keys ↔ name ∈ l.map (·.1) := by
  have hfold (d : Dict α) : name ∈ (l.foldl (fun d e => d.insert e.1 e.2) d).keys ↔
      name ∈ l.map (·.1) ∨ name ∈ d.keys := by
    induction l generalizing d with
    | nil => simp
    | cons e l ih =>
      have hinsert : name ∈ (d.insert e.1 e.2).keys ↔ name = e.1 ∨ name ∈ d.keys := by
        rw [mem_keys_iff, get?_insert, mem_keys_iff]
        by_cases he : name = e.1 <;> simp [he]
      rw [List.foldl_cons, ih, hinsert, List.map_cons, List.mem_cons]
      grind
  simpa [ofList, keys, empty] using hfold empty

theorem mem_of_mem_ofList {l : List (String × α)} (h : Members.Distinct l) {e : String × α}
    (he : e ∈ (ofList l).entries) : e ∈ l := by
  have hget : (ofList l).get? e.1 = some e.2 := mem_entries_iff.mp he
  rw [get?_ofList h] at hget
  exact Members.mem_of_lookup hget

theorem put_last {name : String} {value : α} {l : List (String × α)}
    (h : ∀ e ∈ l, e.1 < name) : put name value l = l ++ [(name, value)] := by
  induction l with
  | nil => rfl
  | cons p l ih =>
    obtain ⟨hp, hl⟩ := List.forall_mem_cons.mp h
    simp [put, String.lt_asymm hp, (String.ne_of_lt hp).symm, ih hl]

/-- A map is the one made of its own entries. -/
theorem ofList_entries (d : Dict α) : ofList d.entries = d := by
  have hfold (l : List (String × α)) (d' : Dict α)
      (h : (d'.entries ++ l).Pairwise (·.1 < ·.1)) :
      (l.foldl (fun d e => d.insert e.1 e.2) d').entries = d'.entries ++ l := by
    induction l generalizing d' with
    | nil => simp
    | cons e l ih =>
      have hlast : (d'.insert e.1 e.2).entries = d'.entries ++ [e] := by
        refine put_last ?_
        intro e' he'
        exact (List.pairwise_append.mp h).2.2 e' he' e List.mem_cons_self
      rw [List.foldl_cons, ih, hlast, List.append_assoc]
      · rfl
      · rw [hlast, List.append_assoc]
        exact h
  exact ext_entries (hfold d.entries empty d.sorted)

end AppDef.Dict
