import AppDef.Pattern.Match

namespace AppDef.Pattern

/-- The step done so many times leads from the first place to the second. -/
inductive Times (step : Nat → Nat → Prop) : (count : Nat) → Nat → Nat → Prop
  | none {i} : Times step 0 i i
  | more {n i j k} : step i j → Times step n j k → Times step (n + 1) i k

mutual

/-- The pattern can be matched from the first place of the text to the second. -/
def Leads (text : List Char) : Pattern → Nat → Nat → Prop
  | .one set, i, j => (∃ c, text[i]? = some c ∧ set.contains c.toNat = true) ∧ j = i + 1
  | .look l, i, j => l.holds text i = true ∧ j = i
  | .concat parts, i, j => LeadsAll text parts i j
  | .alternation branches, i, j => LeadsAny text branches i j
  | .repetition body min max?, i, j =>
    ∃ n, min ≤ n ∧ (∀ max ∈ max?, n ≤ min + (max - min)) ∧ Times (Leads text body) n i j

/-- The patterns can be matched one behind the other. -/
def LeadsAll (text : List Char) : List Pattern → Nat → Nat → Prop
  | [], i, j => j = i
  | p :: ps, i, j => ∃ k, Leads text p i k ∧ LeadsAll text ps k j

def LeadsAny (text : List Char) : List Pattern → Nat → Nat → Prop
  | [], _, _ => False
  | p :: ps, i, j => Leads text p i j ∨ LeadsAny text ps i j

end

variable {R : Nat → Nat → Prop} {step : List Nat → List Nat} {text : List Char}
  {i j k n : Nat} {places known fresh : List Nat}

theorem Times.append {m : Nat} (h : Times R m i j) (h' : Times R n j k) : Times R (m + n) i k := by
  induction h with
  | none => rwa [Nat.zero_add]
  | @more m _ _ _ hstep _ ih =>
    rw [Nat.add_right_comm]
    exact .more hstep (ih h')

theorem Times.split {m : Nat} (h : Times R (m + n) i k) : ∃ j, Times R m i j ∧ Times R n j k := by
  induction m generalizing i with
  | zero => exact ⟨i, .none, by rwa [Nat.zero_add] at h⟩
  | succ m ih =>
    rw [Nat.add_right_comm] at h
    cases h with
    | more hstep h =>
      obtain ⟨j, hm, hn⟩ := ih h
      exact ⟨j, .more hstep hm, hn⟩

/-- A step that goes on in the text if it goes on at all. -/
def Advances (text : List Char) (R : Nat → Nat → Prop) : Prop :=
  ∀ i j, R i j → j = i ∨ i < j ∧ j ≤ text.length

theorem Advances.times (h : Advances text R) : Advances text (Times R n) := by
  intro i j ht
  induction ht with
  | none => exact .inl rfl
  | more hstep _ ih =>
    have := h _ _ hstep
    omega

/-- Steps that stay where they are can be left out, so no more are needed than there are
characters. -/
theorem Times.shorten (hR : Advances text R) (h : Times R n i j) :
    ∃ m ≤ text.length - i, Times R m i j := by
  induction h with
  | none => exact ⟨0, Nat.zero_le _, .none⟩
  | more hstep _ ih =>
    obtain ⟨m, hm, ht⟩ := ih
    rcases hR _ _ hstep with rfl | hlt
    · exact ⟨m, hm, ht⟩
    · exact ⟨m + 1, by omega, .more hstep ht⟩

/-- The step of a search does a step of the relation from each of its places. -/
def Computes (step : List Nat → List Nat) (R : Nat → Nat → Prop) : Prop :=
  ∀ places j, j ∈ step places ↔ ∃ i ∈ places, R i j

theorem addPlaces_eq (known more : List Nat) :
    ∃ added, addPlaces known more = known ++ added ∧
      ∀ j, j ∈ known ++ added ↔ j ∈ known ∨ j ∈ more := by
  unfold addPlaces
  induction more generalizing known with
  | nil => exact ⟨[], by simp, by simp⟩
  | cons place more ih =>
    rw [List.foldl_cons]
    split
    · rename_i hknown
      obtain ⟨added, hadded, hmem⟩ := ih known
      refine ⟨added, hadded, fun j => ?_⟩
      have hplace : place ∈ known := List.contains_iff_mem.mp hknown
      rw [hmem, List.mem_cons]
      constructor
      · exact fun h => h.imp_right .inr
      · rintro (h | rfl | h)
        · exact .inl h
        · exact .inl hplace
        · exact .inr h
    · obtain ⟨added, hadded, hmem⟩ := ih (known ++ [place])
      refine ⟨place :: added, by simpa using hadded, fun j => ?_⟩
      have hj := hmem j
      simp only [List.append_assoc, List.singleton_append] at hj
      rw [hj, List.mem_append, List.mem_singleton, List.mem_cons, or_assoc]

theorem mem_addPlaces {more : List Nat} : j ∈ addPlaces known more ↔ j ∈ known ∨ j ∈ more := by
  obtain ⟨added, hadded, hmem⟩ := addPlaces_eq known more
  rw [hadded, hmem]

theorem mem_iff_times_of_fixed (hstep : Computes step R) (hfixed : step places = places) :
    j ∈ places ↔ ∃ i ∈ places, Times R n i j := by
  induction n generalizing j with
  | zero =>
    constructor
    · exact fun h => ⟨j, h, .none⟩
    · rintro ⟨i, hi, ⟨⟩⟩
      exact hi
  | succ n ih =>
    rw [ih]
    constructor
    · rintro ⟨i, hi, ht⟩
      rw [← hfixed, hstep] at hi
      obtain ⟨i', hi', hR⟩ := hi
      exact ⟨i', hi', .more hR ht⟩
    · rintro ⟨i, hi, ht⟩
      cases ht with
      | more hR ht =>
        refine ⟨_, ?_, ht⟩
        rw [← hfixed, hstep]
        exact ⟨i, hi, hR⟩

theorem mem_exactly (hstep : Computes step R) :
    j ∈ exactly step n places ↔ ∃ i ∈ places, Times R n i j := by
  induction n generalizing places with
  | zero =>
    constructor
    · exact fun h => ⟨j, h, .none⟩
    · rintro ⟨i, hi, ⟨⟩⟩
      exact hi
  | succ n ih =>
    simp only [exactly]
    split
    · rename_i hfixed
      exact mem_iff_times_of_fixed hstep (eq_of_beq hfixed)
    · rw [ih]
      constructor
      · rintro ⟨i, hi, ht⟩
        obtain ⟨i', hi', hR⟩ := (hstep _ _).mp hi
        exact ⟨i', hi', .more hR ht⟩
      · rintro ⟨i, hi, ht⟩
        cases ht with
        | more hR ht => exact ⟨_, (hstep _ _).mpr ⟨i, hi, hR⟩, ht⟩

/-- Every known place is fresh, or a step from it leads to known places only. -/
def Explored (R : Nat → Nat → Prop) (known fresh : List Nat) : Prop :=
  ∀ i ∈ known, i ∈ fresh ∨ ∀ j, R i j → j ∈ known

/-- A way from a known place stays among the known ones, or goes on from a fresh one. -/
theorem Explored.times (h : Explored R known fresh) (hi : i ∈ known) (ht : Times R n i j) :
    j ∈ known ∨ ∃ k ∈ fresh, ∃ m ≤ n, Times R m k j := by
  induction ht with
  | none => exact .inl hi
  | @more n i _ _ hR ht ih =>
    rcases h i hi with hfresh | hclosed
    · exact .inr ⟨i, hfresh, n + 1, Nat.le_refl _, .more hR ht⟩
    · rcases ih (hclosed _ hR) with hj | ⟨k, hk, m, hm, hmore⟩
      · exact .inl hj
      · exact .inr ⟨k, hk, m, by omega, hmore⟩

/-- A round: the fresh places are explored, and the places that are new are the fresh ones. -/
theorem Explored.round {added : List Nat} (hstep : Computes step R) (h : Explored R known fresh)
    (hmem : ∀ j, j ∈ known ++ added ↔ j ∈ known ∨ j ∈ step fresh) :
    Explored R (known ++ added) added := by
  intro i hi
  rcases List.mem_append.mp hi with hi | hi
  · refine .inr fun j hR => (hmem j).mpr ?_
    rcases h i hi with hfresh | hclosed
    · exact .inr ((hstep _ _).mpr ⟨i, hfresh, hR⟩)
    · exact .inl (hclosed j hR)
  · exact .inl hi

/-- What is reached behind a round is what was reached before it in one step more. -/
theorem Explored.reached_round {added : List Nat} (hstep : Computes step R)
    (hfresh : ∀ i ∈ fresh, i ∈ known) (h : Explored R known fresh)
    (hmem : ∀ j, j ∈ known ++ added ↔ j ∈ known ∨ j ∈ step fresh) :
    (j ∈ known ++ added ∨ ∃ i ∈ added, ∃ m ≤ n, Times R m i j) ↔
      j ∈ known ∨ ∃ i ∈ fresh, ∃ m ≤ n + 1, Times R m i j := by
  constructor
  · rintro (hj | ⟨i, hi, m, hm, ht⟩)
    · refine ((hmem j).mp hj).imp_right fun hj => ?_
      obtain ⟨i, hi, hR⟩ := (hstep _ _).mp hj
      exact ⟨i, hi, 1, by omega, .more hR .none⟩
    · rcases (hmem i).mp (List.mem_append_right _ hi) with hi | hi
      · rcases h.times hi ht with hj | ⟨k, hk, m', hm', ht'⟩
        · exact .inl hj
        · exact .inr ⟨k, hk, m', by omega, ht'⟩
      · obtain ⟨i', hi', hR⟩ := (hstep _ _).mp hi
        exact .inr ⟨i', hi', m + 1, by omega, .more hR ht⟩
  · rintro (hj | ⟨i, hi, m, hm, ht⟩)
    · exact .inl (List.mem_append_left _ hj)
    · cases ht with
      | none => exact .inl (List.mem_append_left _ (hfresh _ hi))
      | @more m _ k _ hR ht =>
        have hk : k ∈ known ++ added := (hmem k).mpr (.inr ((hstep _ _).mpr ⟨i, hi, hR⟩))
        rcases (h.round hstep hmem).times hk ht with hj | ⟨k', hk', m', hm', ht'⟩
        · exact .inl hj
        · exact .inr ⟨k', hk', m', by omega, ht'⟩

theorem mem_atMost (hstep : Computes step R) (hfresh : ∀ i ∈ fresh, i ∈ known)
    (h : Explored R known fresh) :
    j ∈ atMost step n known fresh ↔ j ∈ known ∨ ∃ i ∈ fresh, ∃ m ≤ n, Times R m i j := by
  induction n generalizing known fresh with
  | zero =>
    refine ⟨.inl, ?_⟩
    rintro (hj | ⟨i, hi, m, hm, ht⟩)
    · exact hj
    · obtain rfl := Nat.le_zero.mp hm
      cases ht
      exact hfresh _ hi
  | succ n ih =>
    obtain ⟨added, hadded, hmem⟩ := addPlaces_eq known (step fresh)
    have hround := h.round hstep hmem
    simp only [atMost, hadded, List.drop_left]
    split
    · -- Nothing is new: all that can be reached is known.
      rename_i hnone
      obtain rfl := List.isEmpty_iff.mp hnone
      refine ⟨.inl, ?_⟩
      rintro (hj | ⟨i, hi, m, hm, ht⟩)
      · exact hj
      · rw [List.append_nil] at hround
        rcases hround.times (hfresh i hi) ht with hj | ⟨k, hk, -⟩
        · exact hj
        · cases hk
    · rw [ih (fun i hi => List.mem_append_right _ hi) hround]
      exact h.reached_round hstep hfresh hmem

/-- From fresh places that are all the known ones. -/
theorem mem_atMost_self (hstep : Computes step R) :
    j ∈ atMost step n places places ↔ ∃ i ∈ places, ∃ m ≤ n, Times R m i j := by
  rw [mem_atMost hstep (fun _ h => h) fun _ h => .inl h]
  refine ⟨?_, .inr⟩
  rintro (hj | h)
  · exact ⟨j, hj, 0, Nat.zero_le _, .none⟩
  · exact h

mutual

theorem advances_leads (text : List Char) : (p : Pattern) → Advances text (Leads text p)
  | .one set => by
    rintro i j ⟨⟨c, hc, -⟩, rfl⟩
    have hi : i < text.length := (List.getElem?_eq_some_iff.mp hc).1
    omega
  | .look l => fun i j h => .inl h.2
  | .concat parts => advances_leadsAll text parts
  | .alternation branches => advances_leadsAny text branches
  | .repetition body min max? => by
    rintro i j ⟨n, -, -, ht⟩
    exact (advances_leads text body).times i j ht

theorem advances_leadsAll (text : List Char) :
    (parts : List Pattern) → Advances text (LeadsAll text parts)
  | [] => fun _ _ h => .inl h
  | p :: ps => by
    rintro i j ⟨k, hp, hps⟩
    have h₁ := advances_leads text p i k hp
    have h₂ := advances_leadsAll text ps k j hps
    omega

theorem advances_leadsAny (text : List Char) :
    (branches : List Pattern) → Advances text (LeadsAny text branches)
  | [] => fun _ _ h => h.elim
  | p :: ps => fun i j h =>
    h.elim (advances_leads text p i j) (advances_leadsAny text ps i j)

end

/-- Repeated as often as there are characters, a pattern leads wherever it leads at all. -/
theorem times_iff_le_length (p : Pattern) {min : Nat} :
    (∃ n, min ≤ n ∧ Times (Leads text p) n i j) ↔
      ∃ k, Times (Leads text p) min i k ∧
        ∃ m ≤ text.length + 1, Times (Leads text p) m k j := by
  constructor
  · rintro ⟨n, hn, ht⟩
    obtain ⟨m, rfl⟩ := Nat.exists_eq_add_of_le hn
    obtain ⟨k, hmin, hmore⟩ := ht.split
    obtain ⟨m, hm, hmore⟩ := hmore.shorten (advances_leads text p)
    exact ⟨k, hmin, m, by omega, hmore⟩
  · rintro ⟨k, hmin, m, -, hmore⟩
    exact ⟨min + m, by omega, hmin.append hmore⟩

theorem computes_repetition {body : Pattern} (h : Computes (reach text body) (Leads text body))
    (min : Nat) (max? : Option Nat) :
    Computes (reach text (.repetition body min max?)) (Leads text (.repetition body min max?)) := by
  intro places j
  cases max? with
  | none =>
    simp only [reach, Leads, mem_atMost_self h, mem_exactly h, Option.not_mem_none,
      false_implies, implies_true, true_and, times_iff_le_length]
    constructor
    · rintro ⟨k, ⟨i, hi, hmin⟩, hmore⟩
      exact ⟨i, hi, k, hmin, hmore⟩
    · rintro ⟨i, hi, k, hmin, hmore⟩
      exact ⟨k, ⟨i, hi, hmin⟩, hmore⟩
  | some max =>
    simp only [reach, Leads, mem_atMost_self h, mem_exactly h, Option.mem_some_iff, forall_eq']
    constructor
    · rintro ⟨k, ⟨i, hi, hmin⟩, m, hm, hmore⟩
      exact ⟨i, hi, min + m, by omega, by omega, hmin.append hmore⟩
    · rintro ⟨i, hi, n, hn, hmax, ht⟩
      obtain ⟨m, rfl⟩ := Nat.exists_eq_add_of_le hn
      obtain ⟨k, hmin, hmore⟩ := ht.split
      exact ⟨k, ⟨i, hi, hmin⟩, m, by omega, hmore⟩

mutual

/-- The search finds exactly the places that the pattern leads to. -/
theorem computes_reach (text : List Char) : (p : Pattern) → Computes (reach text p) (Leads text p)
  | .one set => by
    intro places j
    simp only [reach, Leads, List.mem_map, List.mem_filter, Option.any_eq_true]
    constructor
    · rintro ⟨i, ⟨hi, hc⟩, rfl⟩
      exact ⟨i, hi, hc, rfl⟩
    · rintro ⟨i, hi, hc, rfl⟩
      exact ⟨i, ⟨hi, hc⟩, rfl⟩
  | .look l => by
    intro places j
    simp only [reach, Leads, List.mem_filter]
    constructor
    · rintro ⟨hj, hl⟩
      exact ⟨j, hj, hl, rfl⟩
    · rintro ⟨i, hi, hl, rfl⟩
      exact ⟨hi, hl⟩
  | .concat parts => by
    intro places j
    simp only [reach, Leads]
    exact computes_reachAll text parts places j
  | .alternation branches => by
    intro places j
    simp only [reach, Leads]
    exact computes_reachAny text branches places j
  | .repetition body min max? => computes_repetition (computes_reach text body) min max?

theorem computes_reachAll (text : List Char) :
    (parts : List Pattern) → Computes (reachAll text parts) (LeadsAll text parts)
  | [] => by
    intro places j
    simp [reachAll, LeadsAll]
  | p :: ps => by
    intro places j
    simp only [reachAll, LeadsAll, computes_reachAll text ps _ j, computes_reach text p places]
    constructor
    · rintro ⟨k, ⟨i, hi, hp⟩, hps⟩
      exact ⟨i, hi, k, hp, hps⟩
    · rintro ⟨i, hi, k, hp, hps⟩
      exact ⟨k, ⟨i, hi, hp⟩, hps⟩

theorem computes_reachAny (text : List Char) :
    (branches : List Pattern) → Computes (reachAny text branches) (LeadsAny text branches)
  | [] => by
    intro places j
    simp [reachAny, LeadsAny]
  | p :: ps => by
    intro places j
    simp only [reachAny, LeadsAny, mem_addPlaces, computes_reach text p places j,
      computes_reachAny text ps places j]
    constructor
    · rintro (⟨i, hi, h⟩ | ⟨i, hi, h⟩)
      · exact ⟨i, hi, .inl h⟩
      · exact ⟨i, hi, .inr h⟩
    · rintro ⟨i, hi, h | h⟩
      · exact .inl ⟨i, hi, h⟩
      · exact .inr ⟨i, hi, h⟩

end

/-- A pattern occurs in a text exactly if it leads from some place of it somewhere. -/
theorem occursIn_iff {p : Pattern} {text : String} :
    p.occursIn text = true ↔
      ∃ i ≤ text.toList.length, ∃ j, Leads text.toList p i j := by
  have hcomputes := computes_reach text.toList p (List.range (text.toList.length + 1))
  simp only [occursIn, Bool.not_eq_true', List.isEmpty_eq_false_iff_exists_mem, hcomputes,
    List.mem_range, Nat.lt_succ_iff]
  constructor
  · rintro ⟨j, i, hi, h⟩
    exact ⟨i, hi, j, h⟩
  · rintro ⟨i, hi, j, h⟩
    exact ⟨j, i, hi, h⟩

end AppDef.Pattern
