import AppDef.Proofs.Document.Acceptance
import AppDef.Proofs.Text

namespace AppDef

section

variable {α β γ : Type}

theorem findSome?_filterMap (f : α → Option β) (g : β → Option γ) (l : List α) :
    (l.filterMap f).findSome? g = l.findSome? fun a => (f a).bind g := by
  rw [← List.head?_filterMap, List.filterMap_filterMap, List.head?_filterMap]

theorem findSome?_zipIdx_eq_none {f : α × Nat → Option β} {l : List α} :
    l.zipIdx.findSome? f = none ↔ ∀ i a, l[i]? = some a → f (a, i) = none := by
  rw [List.findSome?_eq_none_iff]
  constructor
  · intro h i a ha
    exact h (a, i) (List.mem_zipIdx_iff_getElem?.mpr ha)
  · intro h e he
    exact h e.2 e.1 (List.mem_zipIdx_iff_getElem?.mp he)

/-- What is found over the places of a list is found at the first of them where there is anything
to be found. -/
theorem findSome?_zipIdx_eq_some {f : α × Nat → Option β} {l : List α} {b : β}
    (h : l.zipIdx.findSome? f = some b) : ∃ i a, l[i]? = some a ∧ f (a, i) = some b ∧
      ∀ j c, j < i → l[j]? = some c → f (c, j) = none := by
  obtain ⟨before, e, after, hl, hb, hnone⟩ := List.findSome?_eq_some_iff.mp h
  have hplace (j : Nat) : (before ++ e :: after)[j]? = l[j]?.map fun a => (a, j) := by
    rw [← hl, List.getElem?_zipIdx, Nat.zero_add]
  obtain ⟨a, ha, rfl⟩ : ∃ a, l[before.length]? = some a ∧ (a, before.length) = e := by
    simpa using (hplace before.length).symm
  refine ⟨before.length, a, ha, hb, fun j c hj hc => hnone (c, j) ?_⟩
  refine List.mem_of_getElem? (i := j) ?_
  rw [← List.getElem?_append_left hj, hplace, hc]
  rfl

end

theorem SectionKind.name_inj {kind kind' : SectionKind} (h : kind.name = kind'.name) :
    kind = kind' := by
  have hkind := ofName?_eq_some.mpr h
  rw [ofName?_eq_some.mpr rfl] at hkind
  exact Option.some.inj hkind

namespace Document

open Json (IsObject IsText OrNull ListOf RecordOf Conforms)

variable {s : Json} {sections : List Json} {i j : Nat} {rest tail : String}

def Decodes (s : Json) : Prop :=
  ∃ part, decodeSection s = .ok part

/-- A list where a section of some kind has fields. -/
inductive FieldList where
  | fields
  | inputs
  | ofStep (place : Nat)

namespace FieldList

def path : FieldList → String
  | .fields => "fields"
  | .inputs => "inputs"
  | .ofStep k => s!"steps[{k}].fields"

/-- The member of a section that the list is, or is in. -/
def member : FieldList → String
  | .fields => "fields"
  | .inputs => "inputs"
  | .ofStep _ => "steps"

/-- The kind of the sections that read the list. -/
def reader : FieldList → SectionKind
  | .fields => .form
  | .inputs => .calculator
  | .ofStep _ => .wizard

/-- The number of lists that are searched before. -/
def rank : FieldList → Nat
  | .fields => 0
  | .inputs => 1
  | .ofStep k => k + 2

def listOf? (key : String) (v : Json) : Option (List Json) :=
  (v.member? key).bind Json.asArray?

def entries? (s : Json) : FieldList → Option (List Json)
  | .fields => listOf? "fields" s
  | .inputs => listOf? "inputs" s
  | .ofStep k => (((listOf? "steps" s).getD [])[k]?).bind (listOf? "fields")

/-- How an entry of the list is told, behind its section. -/
def entry (l : FieldList) (j : Nat) : String :=
  s!".{l.path}[{j}]"

variable {l l' : FieldList}

/-- An entry of the list is no field. -/
def IsBad (s : Json) (l : FieldList) : Prop :=
  ∃ entries entry, l.entries? s = some entries ∧ entry ∈ entries ∧
    ∀ f, Field.decode entry ≠ .ok f

structure IsFirstBad (s : Json) (l : FieldList) : Prop where
  bad : l.IsBad s
  first : ∀ l' : FieldList, l'.rank < l.rank → ¬ l'.IsBad s

theorem listOf?_eq_some {key : String} {v : Json} {items : List Json} :
    listOf? key v = some items ↔ v.member? key = some (.array items) := by
  unfold listOf?
  cases v.member? key with
  | none => simp
  | some w => cases w <;> simp [Json.asArray?]

theorem not_listOf_isObject {entries : List Json} {entry : Json} (hentry : entry ∈ entries)
    (hno : ∀ f, Field.decode entry ≠ .ok f) : ¬ ListOf IsObject (.array entries) := by
  rintro ⟨_, ⟨⟩, hall⟩
  obtain ⟨f, hf⟩ := (Field.decode_takes entry).mpr (hall entry hentry)
  exact hno f hf

theorem IsBad.exists_step {k : Nat} (h : (ofStep k).IsBad s) :
    ∃ step, ((listOf? "steps" s).getD [])[k]? = some step := by
  obtain ⟨_, _, hentries, -⟩ := h
  obtain ⟨step, hstep, _⟩ := Option.bind_eq_some_iff.mp hentries
  exact ⟨step, hstep⟩

/-- A section with an entry that is no field in a list that it reads does not decode. -/
theorem IsBad.not_decodes (h : l.IsBad s) (hs : s.member? "type" = some (.text l.reader.name)) :
    ¬ Decodes s := by
  obtain ⟨entries, entry, hentries, hentry, hno⟩ := h
  rw [Decodes, decodeSection_takes s]
  rintro ⟨members, kind, rfl, htype, hconforms⟩
  obtain rfl : kind = l.reader := by
    have hname := htype.symm.trans hs
    exact SectionKind.name_inj (by simpa using hname)
  cases l with
  | fields | inputs =>
    have hlist := Members.mem_of_lookup (listOf?_eq_some.mp hentries)
    exact not_listOf_isObject hentry hno (hconforms _ hlist _ rfl)
  | ofStep k =>
    -- a step whose list is found is an object, so it is read by its members
    obtain ⟨step, hstep, hentries⟩ := Option.bind_eq_some_iff.mp hentries
    cases hsteps : listOf? "steps" (.object members) with
    | none => simp [hsteps] at hstep
    | some steps =>
      rw [hsteps] at hstep
      have hlist := Members.mem_of_lookup (listOf?_eq_some.mp hsteps)
      obtain ⟨_, ⟨⟩, hall⟩ := hconforms _ hlist _ rfl
      obtain ⟨inner, hinner, hlookup⟩ := object_of_member (listOf?_eq_some.mp hentries)
      obtain ⟨_, hmembers, hinnerConforms⟩ := hall step (List.mem_of_getElem? hstep)
      subst hinner
      cases hmembers
      exact not_listOf_isObject hentry hno
        (hinnerConforms _ (Members.mem_of_lookup hlookup) _ rfl)

theorem rank_inj (h : l.rank = l'.rank) : l = l' := by
  cases l <;> cases l' <;> simp [rank] at h ⊢
  exact h

theorem IsFirstBad.unique (h : l.IsFirstBad s) (h' : l'.IsFirstBad s) : l = l' := by
  rcases Nat.lt_trichotomy l.rank l'.rank with hlt | he | hlt
  · exact absurd h.bad (h'.first l hlt)
  · exact rank_inj he
  · exact absurd h'.bad (h.first l' hlt)

theorem entry_toList (l : FieldList) (j : Nat) (tail : String) : (l.entry j ++ tail).toList =
    '.' :: (l.path.toList ++ '[' :: ((toString j).toList ++ ']' :: tail.toList)) := by
  change ("." ++ l.path ++ "[" ++ toString j ++ "]" ++ tail).toList = _
  simp only [String.toList_append, List.append_assoc]
  rfl

theorem path_ofStep_toList (k : Nat) : (ofStep k).path.toList =
    's' :: ("teps[".toList ++ ((toString k).toList ++ ']' :: ".fields".toList)) := by
  change ("steps[" ++ toString k ++ "].fields").toList = _
  simp only [String.toList_append, List.append_assoc]
  rfl

/-- An entry is told apart from all entries of all lists. -/
theorem entry_inj {tail' : String} {j' : Nat} (h : l.entry j ++ tail = l'.entry j' ++ tail') :
    l = l' ∧ j = j' := by
  have hchars := congrArg String.toList h
  rw [entry_toList, entry_toList] at hchars
  have hrest := (List.cons.inj hchars).2
  cases l <;> cases l'
  case fields.fields | inputs.inputs =>
    have hnumber := (List.cons.inj (List.append_cancel_left hrest)).2
    exact ⟨rfl, (Text.numbered_inj rfl hnumber).1⟩
  case ofStep.ofStep k k' =>
    simp only [path_ofStep_toList, List.cons_append, List.append_assoc] at hrest
    obtain ⟨rfl, hbehind⟩ := Text.numbered_inj rfl (List.append_cancel_left (List.cons.inj hrest).2)
    have hnumber := (List.cons.inj (List.append_cancel_left hbehind)).2
    exact ⟨rfl, (Text.numbered_inj rfl hnumber).1⟩
  -- the other lists start with different letters
  case fields.inputs | inputs.fields => cases (List.cons.inj hrest).1
  case fields.ofStep | inputs.ofStep | ofStep.fields | ofStep.inputs =>
    rw [path_ofStep_toList] at hrest
    cases (List.cons.inj hrest).1

end FieldList

/-- How a section is told. -/
def place (i : Nat) : String :=
  s!"sections[{i}]"

theorem place_toList (i : Nat) (rest : String) : (place i ++ rest).toList =
    's' :: ("ections[".toList ++ ((toString i).toList ++ ']' :: rest.toList)) := by
  change ("sections[" ++ toString i ++ "]" ++ rest).toList = _
  simp only [String.toList_append, List.append_assoc]
  rfl

theorem place_inj {i' : Nat} {rest' : String} (h : place i ++ rest = place i' ++ rest') :
    i = i' ∧ rest = rest' := by
  have hchars := congrArg String.toList h
  simp only [place_toList] at hchars
  obtain ⟨rfl, hrest⟩ :=
    Text.numbered_inj rfl (List.append_cancel_left (List.cons.inj hchars).2)
  exact ⟨rfl, String.toList_inj.mp hrest⟩

theorem head?_append {s t : String} {c : Char} (h : s.toList.head? = some c) :
    (s ++ t).toList.head? = some c := by
  rw [String.toList_append, List.head?_append, h, Option.some_or]

theorem head?_message (e : Json.ShapeError) : ∃ c, e.message.toList.head? = some c ∧ c ≠ 's' := by
  cases e with
  | mismatch found expected =>
    exact ⟨'i', head?_append (head?_append (head?_append rfl)), by decide⟩
  | outOfRange value => exact ⟨'i', head?_append (head?_append rfl), by decide⟩
  | missing member => exact ⟨'m', head?_append (head?_append rfl), by decide⟩
  | duplicate member => exact ⟨'d', head?_append (head?_append rfl), by decide⟩
  | listEnds length name members =>
    refine ⟨'i', head?_append ?_, by decide⟩
    exact head?_append <| head?_append <| head?_append <| head?_append <| head?_append <|
      head?_append rfl
  | listGoesOn length => exact ⟨'i', head?_append (head?_append rfl), by decide⟩
  | keptListGoesOn length members =>
    refine ⟨'i', head?_append (head?_append ?_), by decide⟩
    exact head?_append (head?_append (head?_append (head?_append rfl)))
  | noVariant name => exact ⟨'d', head?_append rfl, by decide⟩

/-- What is said of a shape does not start with the place of a section. -/
theorem message_ne_place (e : Json.ShapeError) (i : Nat) (rest : String) :
    e.message ≠ place i ++ rest := by
  obtain ⟨c, hfirst, hne⟩ := head?_message e
  intro h
  rw [h, place_toList, List.head?_cons, Option.some.injEq] at hfirst
  exact hne hfirst.symm

variable {message path base : String} {entries : List Json}

theorem badField?_eq_none_iff :
    badField? path entries = none ↔ ∀ entry ∈ entries, ∃ f, Field.decode entry = .ok f := by
  rw [badField?, findSome?_zipIdx_eq_none]
  constructor
  · intro h entry hentry
    obtain ⟨j, hj⟩ := List.getElem?_of_mem hentry
    have hnone := h j entry hj
    cases hdecode : Field.decode entry with
    | ok f => exact ⟨f, rfl⟩
    | error e => simp [hdecode] at hnone
  · intro h j entry hj
    obtain ⟨f, hf⟩ := h entry (List.mem_of_getElem? hj)
    simp [hf]

theorem badField?_eq_some (h : badField? path entries = some message) :
    ∃ (j : Nat) (entry : Json) (e : Json.ShapeError), entries[j]? = some entry ∧
      Field.decode entry = .error e ∧ message = s!"{path}[{j}]: {e.message}" := by
  obtain ⟨j, entry, hj, hfault, -⟩ := findSome?_zipIdx_eq_some h
  cases hdecode : Field.decode entry with
  | ok f => simp [hdecode] at hfault
  | error e =>
    simp only [hdecode, Option.some.injEq] at hfault
    exact ⟨j, entry, e, hj, hdecode, hfault.symm⟩

namespace FieldList

variable {l : FieldList}

/-- The message about the first entry of the list that is no field. -/
def fault? (base : String) (s : Json) (l : FieldList) : Option String :=
  (l.entries? s).bind (badField? (base ++ "." ++ l.path))

theorem fault?_eq_none_iff : l.fault? base s = none ↔ ¬ l.IsBad s := by
  unfold fault? IsBad
  cases l.entries? s with
  | none => simp
  | some entries => simp [badField?_eq_none_iff]

theorem isBad_of_fault? (h : l.fault? base s = some message) : l.IsBad s := by
  by_contra hbad
  rw [fault?_eq_none_iff.mpr hbad] at h
  cases h

theorem fault?_eq_some (h : l.fault? (place i) s = some message) :
    ∃ entries entry j e, l.entries? s = some entries ∧ entries[j]? = some entry ∧
      Field.decode entry = .error e ∧ message = place i ++ (l.entry j ++ (": " ++ e.message)) := by
  obtain ⟨entries, hentries, hfault⟩ := Option.bind_eq_some_iff.mp h
  obtain ⟨j, entry, e, hj, hdecode, rfl⟩ := badField?_eq_some hfault
  refine ⟨entries, entry, j, e, hentries, hj, hdecode, ?_⟩
  change place i ++ "." ++ l.path ++ "[" ++ toString j ++ "]: " ++ e.message =
    place i ++ (("." ++ l.path ++ "[" ++ toString j ++ "]") ++ (": " ++ e.message))
  have hcolon : "]: " = "]" ++ ": " := rfl
  simp only [hcolon, String.append_assoc]

end FieldList

/-- The message about the first entry in any list that is no field. -/
def listFault? (base : String) (s : Json) : Option String :=
  (fieldLists s).findSome? fun e => badField? (base ++ "." ++ e.1) e.2

/-- The lists are searched one after the other. -/
theorem listFault?_eq (base : String) (s : Json) :
    listFault? base s = (FieldList.fields.fault? base s).or ((FieldList.inputs.fault? base s).or
      (((FieldList.listOf? "steps" s).getD []).zipIdx.findSome? fun e =>
        (FieldList.ofStep e.2).fault? base s)) := by
  have hkeys (f : String → Option String) :
      ["fields", "inputs"].findSome? f = (f "fields").or (f "inputs") := by
    rw [List.findSome?_cons]
    cases f "fields" <;> cases hinputs : f "inputs" <;> simp [hinputs]
  have hsteps : (((FieldList.listOf? "steps" s).getD []).zipIdx.findSome? fun e =>
      (FieldList.listOf? "fields" e.1).bind
        (badField? (base ++ "." ++ (FieldList.ofStep e.2).path))) =
      ((FieldList.listOf? "steps" s).getD []).zipIdx.findSome? fun e =>
        (FieldList.ofStep e.2).fault? base s := by
    rw [← List.head?_filterMap, ← List.head?_filterMap]
    refine congrArg _ (List.filterMap_congr fun e he => ?_)
    rw [FieldList.fault?, FieldList.entries?, List.mem_zipIdx_iff_getElem?.mp he,
      Option.bind_some]
  rw [← hsteps, listFault?, fieldLists, List.findSome?_append, findSome?_filterMap,
    findSome?_filterMap, hkeys, Option.or_assoc]
  simp only [Option.bind_map]
  rfl

theorem listFault?_eq_none_iff : listFault? base s = none ↔ ∀ l : FieldList, ¬ l.IsBad s := by
  rw [listFault?_eq, Option.or_eq_none_iff, Option.or_eq_none_iff, findSome?_zipIdx_eq_none]
  simp only [FieldList.fault?_eq_none_iff]
  constructor
  · rintro ⟨hfields, hinputs, hsteps⟩ l
    cases l with
    | fields => exact hfields
    | inputs => exact hinputs
    | ofStep k =>
      intro hbad
      obtain ⟨step, hstep⟩ := hbad.exists_step
      exact hsteps k step hstep hbad
  · intro h
    exact ⟨h .fields, h .inputs, fun k _ _ => h (.ofStep k)⟩

theorem listFault?_eq_some (h : listFault? base s = some message) :
    ∃ l : FieldList, l.IsFirstBad s ∧ l.fault? base s = some message := by
  rw [listFault?_eq, Option.or_eq_some_iff, Option.or_eq_some_iff] at h
  simp only [FieldList.fault?_eq_none_iff] at h
  rcases h with h | ⟨hfields, h | ⟨hinputs, h⟩⟩
  · refine ⟨.fields, ⟨FieldList.isBad_of_fault? h, ?_⟩, h⟩
    intro l hl
    cases hl
  · refine ⟨.inputs, ⟨FieldList.isBad_of_fault? h, ?_⟩, h⟩
    intro l hl
    cases l with
    | fields => exact hfields
    | inputs | ofStep k => simp [FieldList.rank] at hl
  · obtain ⟨k, step, hstep, hk, hbefore⟩ := findSome?_zipIdx_eq_some h
    refine ⟨.ofStep k, ⟨FieldList.isBad_of_fault? hk, ?_⟩, hk⟩
    intro l hl
    cases l with
    | fields => exact hfields
    | inputs => exact hinputs
    | ofStep k' =>
      intro hbad
      obtain ⟨step', hstep'⟩ := hbad.exists_step
      have hk' : k' < k := by simpa [FieldList.rank] using hl
      exact FieldList.fault?_eq_none_iff.mp (hbefore k' step' hk' hstep') hbad

/-- Neither the section nor any list in it is at fault. -/
structure Sound (s : Json) : Prop where
  decodes : Decodes s
  lists : ∀ l : FieldList, ¬ l.IsBad s

/-- All sections before a place are sound. -/
def SoundBefore (sections : List Json) (i : Nat) : Prop :=
  ∀ k earlier, k < i → sections[k]? = some earlier → Sound earlier

theorem SoundBefore.unique {i' : Nat} {s' : Json} (h : SoundBefore sections i)
    (h' : SoundBefore sections i') (hs : sections[i]? = some s) (hs' : sections[i']? = some s')
    (hfault : ¬ Sound s) (hfault' : ¬ Sound s') : i = i' ∧ s = s' := by
  rcases Nat.lt_trichotomy i i' with hlt | rfl | hlt
  · exact absurd (h' i s hlt hs) hfault
  · exact ⟨rfl, Option.some.inj (hs.symm.trans hs')⟩
  · exact absurd (h i' s' hlt hs') hfault'

/-- A section is sound, or a list in it is at fault, or else the section as a whole. -/
theorem badSection?_cases (i : Nat) (s : Json) :
    (badSection? i s = none ∧ Sound s) ∨
      (∃ l message, FieldList.IsFirstBad s l ∧ l.fault? (place i) s = some message ∧
        badSection? i s = some message) ∨
      ∃ e, (∀ l : FieldList, ¬ l.IsBad s) ∧ decodeSection s = .error e ∧
        badSection? i s = some (place i ++ (": " ++ e.message)) := by
  cases hlists : listFault? (place i) s with
  | some message =>
    obtain ⟨l, hfirst, hfault⟩ := listFault?_eq_some hlists
    refine .inr (.inl ⟨l, message, hfirst, hfault, ?_⟩)
    -- the name of the search is not in the code
    unfold listFault? place at hlists
    simp only [badSection?, hlists]
  | none =>
    have hnone := listFault?_eq_none_iff.mp hlists
    unfold listFault? place at hlists
    cases hdecode : decodeSection s with
    | ok part => exact .inl ⟨by simp only [badSection?, hlists, hdecode], ⟨part, hdecode⟩, hnone⟩
    | error e =>
      refine .inr (.inr ⟨e, hnone, rfl, ?_⟩)
      simp only [badSection?, hlists, hdecode]
      exact congrArg some (String.append_assoc ..)

theorem Sound.of_badSection? (h : badSection? i s = none) : Sound s := by
  rcases badSection?_cases i s with ⟨-, hsound⟩ | ⟨_, _, -, -, hsome⟩ | ⟨_, -, -, hsome⟩
  · exact hsound
  · rw [h] at hsome
    cases hsome
  · rw [h] at hsome
    cases hsome

/-- What the search for the fault comes to. -/
inductive Search (sections : List Json) : Option String → Prop
  | nothing : (∀ s ∈ sections, Sound s) → Search sections none
  | entry {i s l entries entry j e} : sections[i]? = some s → SoundBefore sections i →
      FieldList.IsFirstBad s l → l.entries? s = some entries → entries[j]? = some entry →
      Field.decode entry = .error e →
      Search sections (some (place i ++ (l.entry j ++ (": " ++ e.message))))
  | whole {i s e} : sections[i]? = some s → SoundBefore sections i →
      (∀ l : FieldList, ¬ l.IsBad s) → decodeSection s = .error e →
      Search sections (some (place i ++ (": " ++ e.message)))

theorem search_locate? (sections : List Json) : Search sections (locate? sections) := by
  cases h : locate? sections with
  | none =>
    refine .nothing fun s hs => ?_
    obtain ⟨i, hi⟩ := List.getElem?_of_mem hs
    exact .of_badSection? (findSome?_zipIdx_eq_none.mp h i s hi)
  | some message =>
    obtain ⟨i, s, hi, hmessage, hearlier⟩ := findSome?_zipIdx_eq_some h
    have hbefore : SoundBefore sections i := fun k earlier hk hget =>
      .of_badSection? (hearlier k earlier hk hget)
    rcases badSection?_cases i s with
      ⟨hnone, -⟩ | ⟨l, _, hfirst, hfault, hsome⟩ | ⟨e, hlists, hdecode, hsome⟩
    · cases hnone.symm.trans hmessage
    · cases hsome.symm.trans hmessage
      obtain ⟨entries, entry, j, e, hentries, hj, hdecode, rfl⟩ := FieldList.fault?_eq_some hfault
      exact .entry hi hbefore hfirst hentries hj hdecode
    · cases hsome.symm.trans hmessage
      exact .whole hi hbefore hlists hdecode

/-- Where the text goes on to an entry of a list, the section reads that list, and the entry is no
field. -/
def TellsEntry (s : Json) (rest : String) : Prop :=
  ∀ (l : FieldList) (j : Nat) (tail : String), rest = s!".{l.path}[{j}]" ++ tail →
    s.member? "type" = some (.text l.reader.name) ∧ ∃ entries entry,
      l.entries? s = some entries ∧ entries[j]? = some entry ∧ ∀ f, Field.decode entry ≠ .ok f

/-- A section in which the message puts the fault is the first that does not decode, and when all of
them decode it puts the fault in none. -/
structure PointsAtCulprit (sections : List Json) (message : String) : Prop where
  within : ∀ (i : Nat) (rest : String), message = s!"sections[{i}]" ++ rest →
    ∃ s, sections[i]? = some s ∧ ¬ Decodes s ∧
      (∀ k earlier, k < i → sections[k]? = some earlier → Decodes earlier) ∧ TellsEntry s rest
  beside : (∀ s ∈ sections, Decodes s) →
    ∀ (i : Nat) (rest : String), message ≠ s!"sections[{i}]" ++ rest

/-- The first entry that is no field is in a list that its section does not read. -/
def Misled (sections : List Json) : Prop :=
  ∃ i s l, sections[i]? = some s ∧ SoundBefore sections i ∧ FieldList.IsFirstBad s l ∧
    s.member? "type" ≠ some (.text l.reader.name)

theorem not_sound_of_isFirstBad {l : FieldList} (h : l.IsFirstBad s) : ¬ Sound s :=
  fun hsound => hsound.lists l h.bad

theorem pointsAtCulprit_of_place (hi : sections[i]? = some s) (hbefore : SoundBefore sections i)
    (hfault : ¬ Decodes s) (hentry : TellsEntry s rest) :
    PointsAtCulprit sections (place i ++ rest) := by
  constructor
  · intro i' rest' hm
    obtain ⟨rfl, rfl⟩ := place_inj hm
    exact ⟨s, hi, hfault, fun k earlier hk hget => (hbefore k earlier hk hget).decodes, hentry⟩
  · intro hall
    exact absurd (hall s (List.mem_of_getElem? hi)) hfault

/-- What is said of a section as a whole tells no entry. -/
theorem tellsEntry_colon (s : Json) (e : Json.ShapeError) : TellsEntry s (": " ++ e.message) := by
  intro l j tail h
  have hchars : (": " ++ e.message).toList = (l.entry j ++ tail).toList := congrArg String.toList h
  rw [FieldList.entry_toList, String.toList_append] at hchars
  cases (List.cons.inj hchars).1

theorem tellsEntry_entry {l : FieldList} {entry : Json} {e : Json.ShapeError}
    (hkind : s.member? "type" = some (.text l.reader.name)) (hentries : l.entries? s = some entries)
    (hj : entries[j]? = some entry) (hdecode : Field.decode entry = .error e) (tail : String) :
    TellsEntry s (l.entry j ++ tail) := by
  intro l' j' tail' h
  obtain ⟨rfl, rfl⟩ := FieldList.entry_inj h
  refine ⟨hkind, entries, entry, hentries, hj, fun f hf => ?_⟩
  rw [hdecode] at hf
  cases hf

/-- The search points at the culprit unless a list that is not read misleads it. -/
theorem pointsAtCulprit_iff {found : Option String} (h : Search sections found)
    (e : Json.ShapeError) :
    PointsAtCulprit sections (found.getD e.message) ↔ ¬ Misled sections := by
  cases h with
  | nothing hsound =>
    constructor
    · rintro - ⟨i, s, l, hi, -, hfirst, -⟩
      exact not_sound_of_isFirstBad hfirst (hsound s (List.mem_of_getElem? hi))
    · intro _
      exact ⟨fun i rest hm => absurd hm (message_ne_place e i rest),
        fun _ i rest => message_ne_place e i rest⟩
  | @entry i s l entries entry j e hi hbefore hfirst hentries hj hdecode =>
    constructor
    · -- the list that misleads the search is the one that it found
      rintro hpoints ⟨i', s', l', hi', hbefore', hfirst', hkind⟩
      obtain ⟨rfl, rfl⟩ := hbefore.unique hbefore' hi hi' (not_sound_of_isFirstBad hfirst)
        (not_sound_of_isFirstBad hfirst')
      obtain rfl := hfirst.unique hfirst'
      obtain ⟨s', hs', _, _, htold⟩ := hpoints.within i _ rfl
      cases hi.symm.trans hs'
      exact hkind (htold l j _ rfl).1
    · intro hmisled
      have hkind : s.member? "type" = some (.text l.reader.name) := by
        by_contra hkind
        exact hmisled ⟨i, s, l, hi, hbefore, hfirst, hkind⟩
      exact pointsAtCulprit_of_place hi hbefore (hfirst.bad.not_decodes hkind)
        (tellsEntry_entry hkind hentries hj hdecode _)
  | @whole i s e hi hbefore hlists hdecode =>
    have hfault : ¬ Decodes s := by
      rintro ⟨part, hpart⟩
      rw [hdecode] at hpart
      cases hpart
    constructor
    · rintro - ⟨i', s', l, hi', hbefore', hfirst, -⟩
      obtain ⟨rfl, rfl⟩ := hbefore.unique hbefore' hi hi' (fun hsound => hfault hsound.decodes)
        (not_sound_of_isFirstBad hfirst)
      exact hlists l hfirst.bad
    · intro _
      exact pointsAtCulprit_of_place hi hbefore hfault (tellsEntry_colon s e)

/-- The icon, the rule for contacts or the settings do not have their shape. -/
def FaultBeside (raw : Json) : Prop :=
  (∃ identity icon, raw.member? "meta" = some (.object identity) ∧
      identity.lookup "icon" = some icon ∧ ¬ OrNull IsText icon) ∨
    (∃ crm, raw.member? "crm" = some crm ∧ ¬ OrNull (RecordOf Crm.attributes) crm) ∨
    ∃ settings, raw.member? "settings" = some settings ∧
      ¬ OrNull (RecordOf Settings.attributes) settings

theorem identity_conforms {identity : List (String × Json)}
    (hdistinct : Members.Distinct identity)
    (hfilled : ∀ key ∈ requiredTexts, Filled identity key)
    (hicon : ∀ icon, identity.lookup "icon" = some icon → OrNull IsText icon) :
    Conforms Meta.attributes identity := by
  have htext (key : String) (hkey : key ∈ requiredTexts) (v : Json)
      (hv : identity.lookup key = some v) : IsText v := by
    obtain ⟨t, ht, _⟩ := hfilled key hkey
    exact ⟨t, Option.some.inj (hv.symm.trans ht)⟩
  rintro ⟨name, v⟩ hm shape hshape
  have hv := hdistinct.lookup hm
  have hknown := Members.mem_of_lookup hshape
  simp only [Meta.attributes, List.mem_cons, Prod.mk.injEq, List.not_mem_nil, or_false] at hknown
  rcases hknown with ⟨rfl, rfl⟩ | ⟨rfl, rfl⟩ | ⟨rfl, rfl⟩ | ⟨rfl, rfl⟩
  · exact htext "title" (by decide) v hv
  · exact htext "slug" (by decide) v hv
  · exact htext "description" (by decide) v hv
  · exact hicon v hv

/-- With a sound skeleton and sections that decode, what does not decode is beside them. -/
theorem faultBeside_of_decodes {root : List (String × Json)} {e : Json.ShapeError}
    (hwf : (Json.object root).WellFormed) (hidentified : Identified (.object root))
    (hlist : root.lookup "sections" = some (.array sections))
    (herror : Json.decodeMembersInto slots empty root = .error e)
    (hall : ∀ s ∈ sections, Decodes s) : FaultBeside (.object root) := by
  by_contra hbeside
  have hconforms : Conforms attributes root := by
    rintro ⟨name, v⟩ hm shape hshape
    have hv := hwf.distinct.lookup hm
    have hknown := Members.mem_of_lookup hshape
    simp only [attributes, List.mem_cons, Prod.mk.injEq, List.not_mem_nil, or_false] at hknown
    rcases hknown with ⟨rfl, rfl⟩ | ⟨rfl, rfl⟩ | ⟨rfl, rfl⟩ | ⟨rfl, rfl⟩
    · obtain ⟨identity, hmeta, hfilled⟩ := hidentified
      cases hv.symm.trans hmeta
      refine ⟨identity, rfl, identity_conforms (hwf.member hv).distinct hfilled ?_, ?_⟩
      · intro icon hicon
        by_contra hshape
        exact hbeside (.inl ⟨identity, icon, hmeta, hicon, hshape⟩)
      · intro key hkey
        obtain ⟨t, ht, _⟩ := hfilled key hkey
        rw [ht]
        rfl
    · cases hv.symm.trans hlist
      exact ⟨sections, rfl, fun s hs => (decodeSection_takes s).mp (hall s hs)⟩
    · by_contra hcrm
      exact hbeside (.inr (.inl ⟨v, hv, hcrm⟩))
    · by_contra hsettings
      exact hbeside (.inr (.inr ⟨v, hv, hsettings⟩))
  obtain ⟨d, hd⟩ := (Json.decodeMembersInto_isOk slots_take root empty).mpr hconforms
  rw [herror] at hd
  cases hd

theorem ofJson_of_error {root : List (String × Json)} {e : Json.ShapeError}
    (hidentified : Identified (.object root))
    (hlist : root.lookup "sections" = some (.array sections)) (hkinded : ∀ s ∈ sections, Kinded s)
    (herror : Json.decodeMembersInto slots empty root = .error e) :
    ofJson (.object root) = .error (.malformed ((locate? sections).getD e.message)) := by
  simp only [ofJson, checkMeta_of_identified hidentified, hlist, Json.asArray?,
    checkKinds_kinded hkinded, herror, Option.bind_some, except_ok_bind]

/-- A malformed document has sections, and the message is what the search in them comes to, or what
the decoder says. -/
theorem message_of_malformed {raw : Json} (h : ofJson raw = .error (.malformed message)) :
    ∃ root sections e, raw = .object root ∧ Identified raw ∧
      root.lookup "sections" = some (.array sections) ∧
      Json.decodeMembersInto slots empty root = .error e ∧
      message = (locate? sections).getD e.message := by
  have hskeleton : Skeleton raw := (malformed_iff.mp ⟨message, h⟩).1
  obtain ⟨root, rfl, ⟨d, -, hok⟩ | ⟨e, -, herror, -⟩⟩ := hskeleton.outcome
  · cases hok.symm.trans h
  · obtain ⟨hidentified, sections, hlist, hkinded⟩ := hskeleton
    have hmessage := h.symm.trans (ofJson_of_error hidentified hlist hkinded herror)
    simp only [Except.error.injEq, SchemaError.malformed.injEq] at hmessage
    exact ⟨root, sections, e, rfl, hidentified, hlist, herror, hmessage⟩

/-- The message about a malformed document points at the culprit unless the search for it is misled,
that is, unless the first entry that is no field is in a list that its section does not read. When
all sections decode, the fault is beside them. -/
theorem malformed_points_at_culprit {raw : Json} (hraw : raw.WellFormed)
    (h : ofJson raw = .error (.malformed message)) :
    ∃ sections, raw.member? "sections" = some (.array sections) ∧
      (PointsAtCulprit sections message ↔ ¬ Misled sections) ∧
      ((∀ s ∈ sections, Decodes s) → FaultBeside raw) := by
  obtain ⟨root, sections, e, rfl, hidentified, hlist, herror, rfl⟩ := message_of_malformed h
  exact ⟨sections, hlist, pointsAtCulprit_iff (search_locate? sections) e,
    faultBeside_of_decodes hraw hidentified hlist herror⟩

/-- A document of one section, with a rule for contacts beside it. -/
def callback (section_ crm : Json) : List (String × Json) :=
  [("meta", .object [("title", .text "Call"), ("slug", .text "call"),
    ("description", .text "Asks for a call")]), ("sections", .array [section_]), ("crm", crm)]

theorem callback_identified (section_ crm : Json) :
    Identified (.object (callback section_ crm)) := by
  refine ⟨_, rfl, fun key hkey => ?_⟩
  simp only [requiredTexts, List.mem_cons, List.not_mem_nil, or_false] at hkey
  rcases hkey with rfl | rfl | rfl <;> exact ⟨_, rfl, by decide⟩

theorem callback_wellFormed {section_ crm : Json} (hs : section_.WellFormed)
    (hcrm : crm.WellFormed) : (Json.object (callback section_ crm)).WellFormed := by
  simp [callback, Json.wellFormed_object_iff, Json.wellFormed_array_iff, Members.Distinct,
    Json.WellFormed.text, hs, hcrm]

theorem callback_refused {section_ crm : Json} {e : Json.ShapeError} (hkind : Kinded section_)
    (herror : Json.decodeMembersInto slots empty (callback section_ crm) = .error e)
    (hlocated : locate? [section_] = some message) :
    ofJson (.object (callback section_ crm)) = .error (.malformed message) := by
  have hkinded : ∀ s ∈ [section_], Kinded s := by simpa using hkind
  rw [ofJson_of_error (callback_identified section_ crm) rfl hkinded herror, hlocated,
    Option.getD_some]

/-- The second field of its first step is a number. -/
def stumblingSteps : Json :=
  .object [("type", .text "wizard"), ("steps", .array [.object [("title", .text "You"),
    ("fields", .array [.object [("name", .text "phone")], .number (.whole 7)])]])]

theorem malformed_points_at_culprit_steps :
    let raw : Json := .object (callback stumblingSteps .null)
    let message :=
      "sections[0].steps[0].fields[1]: invalid type: integer `7`, expected struct Field"
    raw.WellFormed ∧ ofJson raw = .error (.malformed message) ∧
      PointsAtCulprit [stumblingSteps] message := by
  intro raw message
  have hraw : raw.WellFormed := by
    refine callback_wellFormed ?_ .null
    simp [stumblingSteps, Json.wellFormed_object_iff, Json.wellFormed_array_iff, Members.Distinct,
      Json.WellFormed.text, Json.WellFormed.number]
  have hlocated : locate? [stumblingSteps] = some message := by decide +kernel
  have hrefused : ofJson raw = .error (.malformed message) :=
    callback_refused ⟨.wizard, rfl⟩ rfl hlocated
  obtain ⟨_, hlist, hpoints, -⟩ := malformed_points_at_culprit hraw hrefused
  cases hlist
  refine ⟨hraw, hrefused, hpoints.mpr ?_⟩
  rintro ⟨i, s, l, hi, -, hfirst, hkind⟩
  obtain rfl : s = stumblingSteps := by simpa using List.mem_of_getElem? hi
  obtain ⟨entries, _, hentries, -⟩ := hfirst.bad
  cases l with
  | fields | inputs => cases hentries
  | ofStep k => exact hkind rfl

/-- Static content with a list of fields, which it does not read, and a number in it. -/
def strayingText : Json :=
  .object [("type", .text "text"), ("body", .text "Hi"), ("fields", .array [.number (.whole 7)])]

/-- The section decodes and the rule for contacts does not, but the message names the section. -/
theorem straying_list_is_blamed :
    let raw : Json := .object (callback strayingText (.number (.whole 5)))
    let message := "sections[0].fields[0]: invalid type: integer `7`, expected struct Field"
    raw.WellFormed ∧ raw.member? "sections" = some (.array [strayingText]) ∧
      Decodes strayingText ∧ FaultBeside raw ∧ ofJson raw = .error (.malformed message) ∧
      ¬ PointsAtCulprit [strayingText] message := by
  intro raw message
  have hraw : raw.WellFormed := by
    refine callback_wellFormed ?_ (.number _)
    simp [strayingText, Json.wellFormed_object_iff, Json.wellFormed_array_iff, Members.Distinct,
      Json.WellFormed.text, Json.WellFormed.number]
  have hdecodes : Decodes strayingText := ⟨_, rfl⟩
  have hall : ∀ s ∈ [strayingText], Decodes s := by simpa using hdecodes
  have hlocated : locate? [strayingText] = some message := by decide +kernel
  have hrefused : ofJson raw = .error (.malformed message) :=
    callback_refused ⟨.text, rfl⟩ rfl hlocated
  have hbeside : FaultBeside raw := by
    refine .inr (.inl ⟨.number (.whole 5), rfl, ?_⟩)
    rintro (h | ⟨_, h, -⟩) <;> cases h
  refine ⟨hraw, rfl, hdecodes, hbeside, hrefused, fun hpoints => ?_⟩
  have hplace : message = s!"sections[{0}]" ++
      ".fields[0]: invalid type: integer `7`, expected struct Field" := by decide +kernel
  exact hpoints.beside hall 0 _ hplace

end Document

end AppDef
