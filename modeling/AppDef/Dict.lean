import AppDef.Json.Basic

namespace AppDef

/-- Names are ordered by code point. -/
structure Dict (α : Type) where
  entries : List (String × α)
  sorted : entries.Pairwise (·.1 < ·.1)

namespace Dict

variable {α β : Type}

def empty : Dict α := ⟨[], .nil⟩

instance : Inhabited (Dict α) := ⟨empty⟩

instance : EmptyCollection (Dict α) := ⟨empty⟩

def isEmpty (d : Dict α) : Bool :=
  d.entries.isEmpty

def keys (d : Dict α) : List String :=
  d.entries.map (·.1)

def get? (d : Dict α) (name : String) : Option α :=
  d.entries.lookup name

def contains (d : Dict α) (name : String) : Bool :=
  (d.get? name).isSome

def put (name : String) (value : α) : List (String × α) → List (String × α)
  | [] => [(name, value)]
  | (k, v) :: rest =>
    if name < k then (name, value) :: (k, v) :: rest
    else if name = k then (name, value) :: rest
    else (k, v) :: put name value rest

theorem mem_put {name : String} {value : α} {l : List (String × α)} {e : String × α}
    (h : e ∈ put name value l) : e = (name, value) ∨ e ∈ l := by
  induction l with
  | nil => exact .inl (List.mem_singleton.mp h)
  | cons p l ih =>
    simp only [put] at h
    split at h
    · exact List.mem_cons.mp h
    · split at h
      · rcases List.mem_cons.mp h with h | h
        · exact .inl h
        · exact .inr (List.mem_cons_of_mem _ h)
      · rcases List.mem_cons.mp h with h | h
        · exact .inr (h ▸ List.mem_cons_self)
        · rcases ih h with h | h
          · exact .inl h
          · exact .inr (List.mem_cons_of_mem _ h)

theorem sorted_put {name : String} {value : α} {l : List (String × α)}
    (h : l.Pairwise (·.1 < ·.1)) : (put name value l).Pairwise (·.1 < ·.1) := by
  induction l with
  | nil => exact List.pairwise_singleton _ _
  | cons p l ih =>
    obtain ⟨hp, hl⟩ := List.pairwise_cons.mp h
    simp only [put]
    split
    · rename_i lt
      refine List.pairwise_cons.mpr ⟨?_, h⟩
      intro e he
      rcases List.mem_cons.mp he with he | he
      · exact he ▸ lt
      · exact String.lt_trans lt (hp e he)
    · split
      · rename_i _ eq
        exact List.pairwise_cons.mpr ⟨fun e he => by simpa [eq] using hp e he, hl⟩
      · rename_i nlt ne
        refine List.pairwise_cons.mpr ⟨?_, ih hl⟩
        intro e he
        rcases mem_put he with he | he
        · subst he
          by_cases lt : p.1 < name
          · exact lt
          · exact absurd (String.le_antisymm (String.not_lt.mp lt) (String.not_lt.mp nlt)) ne
        · exact hp e he

def insert (d : Dict α) (name : String) (value : α) : Dict α :=
  ⟨put name value d.entries, sorted_put d.sorted⟩

def erase (d : Dict α) (name : String) : Dict α :=
  ⟨d.entries.filter (·.1 != name), d.sorted.filter _⟩

def ofList (entries : List (String × α)) : Dict α :=
  entries.foldl (fun d e => d.insert e.1 e.2) empty

/-- The entries of `d` with those of `e` laid over them. -/
def overlay (d e : Dict α) : Dict α :=
  e.entries.foldl (fun d e => d.insert e.1 e.2) d

instance [BEq α] : BEq (Dict α) := ⟨fun d e => d.entries == e.entries⟩

end Dict

end AppDef
