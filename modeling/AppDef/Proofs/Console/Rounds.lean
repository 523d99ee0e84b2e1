import AppDef.Console.Basic
import AppDef.Proofs.Console.Walk
import AppDef.Proofs.Gate

namespace AppDef

theorem Field.get?_defaulted_erase (f : Field) (values : Values) :
    (f.defaulted (values.erase f.name)).get? f.name = f.defaultValue := by
  cases hd : f.defaultValue <;>
    simp [defaulted, hd, Dict.contains, Dict.get?_erase, Dict.get?_insert]

theorem Field.get?_defaulted_of_ne {f : Field} {values : Values} {name : String}
    (h : name ≠ f.name) : (f.defaulted values).get? name = values.get? name := by
  unfold defaulted
  cases f.defaultValue with
  | none => rfl
  | some v =>
    dsimp only
    split
    · rfl
    · simp [Dict.get?_insert, h]

namespace Document

variable {d : Document} {f : Field} {values values' : Values} {name : String}

theorem name_of_field? (h : d.field? name = some f) : f.name = name := by
  simpa using List.find?_some h

/-- A hidden field that stands first under the name accepts its own default, or the lack of one,
and this is what is captured for it. -/
def PutBack (d : Document) (values : Values) (name : String) : Prop :=
  ∃ f, d.field? name = some f ∧ f.kind = .hidden ∧ f.check f.defaultValue = none ∧
    values.get? name = f.defaultValue

/-- What a hidden field that stands first under its name is put back to, if it accepts that, no
other field of this name refuses. -/
def AcceptsDefaults (d : Document) : Prop :=
  ∀ f ∈ d.fields, ∀ h, d.field? f.name = some h → h.kind = .hidden →
    h.check h.defaultValue = none → f.check h.defaultValue = none

/-- Where no two fields have one name, there is no other field of a name. -/
theorem acceptsDefaults_of_nodup (h : (d.fields.map (·.name)).Nodup) : d.AcceptsDefaults := by
  intro f hf first hfirst _ hcheck
  have hname : first.name = f.name := name_of_field? hfirst
  have heq : first = f :=
    List.inj_on_of_nodup_map h (List.mem_of_find?_eq_some hfirst) hf hname
  exact heq ▸ hcheck

/-- The names of the fields that fail. -/
def refused (d : Document) (values : Values) : List String :=
  (d.validate values).failingFields

theorem mem_refused_iff :
    name ∈ d.refused values ↔ ∃ f ∈ d.fields, f.name = name ∧ f.Fails values := by
  constructor
  · intro h
    obtain ⟨e, he, rfl⟩ := List.mem_map.mp h
    obtain ⟨f, hf, hcheck⟩ := List.mem_filterMap.mp he
    obtain ⟨v, hv, rfl⟩ := Field.check_eq_some_iff.mp hcheck
    exact ⟨f, hf, rfl, v, hv⟩
  · rintro ⟨f, hf, rfl, v, hv⟩
    have hcheck : f.check (values.get? f.name) = some (f.report v) :=
      Field.check_eq_some_iff.mpr ⟨v, hv, rfl⟩
    exact List.mem_map.mpr ⟨f.report v, List.mem_filterMap.mpr ⟨f, hf, hcheck⟩, rfl⟩

/-- What is refused is found again by its name. -/
theorem field?_of_refused (h : name ∈ d.refused values) : ∃ f, d.field? name = some f := by
  obtain ⟨f, hf, hname, -⟩ := mem_refused_iff.mp h
  refine Option.isSome_iff_exists.mp (List.find?_isSome.mpr ⟨f, hf, ?_⟩)
  simp [hname]

/-- Once all that was refused is put back and the rest is kept, nothing is refused any more. -/
theorem passes_of_putBack (hd : d.AcceptsDefaults)
    (hput : ∀ name ∈ d.refused values, d.PutBack values' name)
    (hkept : ∀ name ∉ d.refused values, values'.get? name = values.get? name) :
    ∀ f ∈ d.fields, ¬ f.Fails values' := by
  intro f hf
  by_cases hname : f.name ∈ d.refused values
  · obtain ⟨first, hfirst, hk, hcheck, hget⟩ := hput f.name hname
    refine Field.check_eq_none_iff.mp ?_
    rw [hget]
    exact hd f hf first hfirst hk hcheck
  · rintro ⟨v, hv⟩
    rw [hkept f.name hname] at hv
    exact hname (mem_refused_iff.mpr ⟨f, hf, rfl, v, hv⟩)

theorem PutBack.congr (h : d.PutBack values name) (hv : ∀ key, values'.get? key = values.get? key) :
    d.PutBack values' name := by
  obtain ⟨f, hf, hk, hcheck, hget⟩ := h
  exact ⟨f, hf, hk, hcheck, (hv name).trans hget⟩

theorem refused_congr (hv : ∀ key, values'.get? key = values.get? key) :
    d.refused values' = d.refused values := by
  simp only [refused, Document.validate, AppDef.validate, hv]

end Document

namespace Walk

variable {verbose : Bool} {d : Document} {s s' : Session} {name : String} {names : List String}

/-- All that asking again can come to, if it does not stop the session. -/
inductive Reasked (d : Document) (names : List String) (s s' : Session) : Prop
  | read (h : s'.lines.length < s.lines.length)
  | silent (hlines : s'.lines = s.lines) (hput : ∀ name ∈ names, d.PutBack s'.values name)
      (hkept : ∀ name ∉ names, s'.values.get? name = s.values.get? name)

theorem settles_reaskOne {f : Field} (h : d.field? name = some f) :
    Settles (reaskOne verbose d name) s fun _ s' => Reasked d [name] s s' := by
  obtain rfl := Document.name_of_field? h
  simp only [reaskOne, h]
  refine (settles_modify rfl).bind (Q := fun _ s' =>
    s' = { s with values := s.values.erase f.name }) ?_
  rintro _ _ rfl
  refine (settles_discard settles_ask).mono ?_
  rintro _ s' ⟨flow, h'⟩
  cases h' with
  | read h' => exact .read h'
  | hidden hk hc =>
    dsimp only at hc
    rw [f.get?_defaulted_erase] at hc
    refine .silent rfl ?_ ?_
    · rintro name hname
      rw [List.mem_singleton.mp hname]
      exact ⟨f, h, hk, hc, f.get?_defaulted_erase s.values⟩
    · intro name hname
      have hne : name ≠ f.name := by simpa using hname
      exact (Field.get?_defaulted_of_ne hne).trans (by simp [Dict.get?_erase, hne])

theorem settles_reask (h : ∀ name ∈ names, ∃ f, d.field? name = some f) :
    Settles (reask verbose d names) s fun _ s' => Reasked d names s s' := by
  induction names generalizing s with
  | nil => exact settles_pure (.silent rfl (fun _ h => by cases h) fun _ _ => rfl)
  | cons name names ih =>
    obtain ⟨⟨f, hf⟩, hnames⟩ := List.forall_mem_cons.mp h
    change Settles (reaskOne verbose d name >>= fun _ => reask verbose d names) s _
    refine (settles_reaskOne hf).bind fun _ s₁ h₁ => (ih hnames).mono fun _ s₂ h₂ => ?_
    cases h₁ with
    | read h₁ =>
      refine .read ?_
      cases h₂ with
      | read h₂ => exact Nat.lt_trans h₂ h₁
      | silent hlines _ _ => exact hlines ▸ h₁
    | silent hlines hput hkept =>
      cases h₂ with
      | read h₂ => exact .read (hlines ▸ h₂)
      | silent hlines' hput' hkept' =>
        refine .silent (hlines'.trans hlines) (List.forall_mem_cons.mpr ⟨?_, hput'⟩) ?_
        · -- the name may be asked for once more
          by_cases hagain : name ∈ names
          · exact hput' name hagain
          · obtain ⟨first, hfirst, hk, hcheck, hget⟩ := hput name List.mem_cons_self
            exact ⟨first, hfirst, hk, hcheck, (hkept' name hagain).trans hget⟩
        · intro other hother
          have hne : other ≠ name := List.ne_of_not_mem_cons hother
          have hnot : other ∉ names := List.not_mem_of_not_mem_cons hother
          exact (hkept' other hnot).trans (hkept other (by simpa using hne))

/-- What is put back already is put back to what it is. -/
theorem reask_of_putBack {names : List String} (h : ∀ name ∈ names, d.PutBack s.values name) :
    ∃ s', reask verbose d names s = (.ok (), s') ∧
      ∀ key, s'.values.get? key = s.values.get? key := by
  induction names generalizing s with
  | nil => exact ⟨s, rfl, fun _ => rfl⟩
  | cons name names ih =>
    obtain ⟨⟨f, hf, hk, hcheck, hget⟩, hnames⟩ := List.forall_mem_cons.mp h
    obtain rfl := Document.name_of_field? hf
    have hone : reaskOne verbose d f.name s =
        (.ok (), { s with values := f.defaulted (s.values.erase f.name) }) := by
      have hback : (f.defaulted (s.values.erase f.name)).get? f.name = f.defaultValue :=
        f.get?_defaulted_erase s.values
      have hask : ask verbose false f { s with values := s.values.erase f.name } =
          (.ok .next, { s with values := f.defaulted (s.values.erase f.name) }) := by
        rw [ask, if_pos hk, hidden_eq]
        simp only [hback, hcheck]
      simp only [reaskOne, hf, bind_eq, modify_eq, discard_eq, hask]
      rfl
    have hsame (key : String) :
        (f.defaulted (s.values.erase f.name)).get? key = s.values.get? key := by
      by_cases he : key = f.name
      · rw [he, f.get?_defaulted_erase, hget]
      · simp [Field.get?_defaulted_of_ne he, Dict.get?_erase, he]
    have hput : ∀ name ∈ names, d.PutBack (f.defaulted (s.values.erase f.name)) name :=
      fun name hname => (hnames name hname).congr hsame
    obtain ⟨s', hs', hkept⟩ := ih (s := { s with values := f.defaulted (s.values.erase f.name) }) hput
    refine ⟨s', ?_, fun key => (hkept key).trans (hsame key)⟩
    change (reaskOne verbose d f.name >>= fun _ => reask verbose d names) s = _
    rw [bind_eq, hone]
    exact hs'

end Walk

namespace Console

open Walk

variable {verbose : Bool} {d : Document} {config : EngineConfig} {s : Session} {fuel : Nat}

theorem settles_rounds_of_passes (h : ∀ f ∈ d.fields, ¬ f.Fails s.values) :
    Settles (rounds verbose d config (fuel + 1)) s fun _ _ => True := by
  refine settles_get.bind ?_
  rintro _ s ⟨rfl, rfl⟩
  simp only [Submission.submit_of_passes h]
  exact settles_say.mono fun _ _ _ => trivial

theorem settles_rounds (hd : d.AcceptsDefaults) (hfuel : s.lines.length + 2 ≤ fuel) :
    Settles (rounds verbose d config fuel) s fun _ _ => True := by
  induction fuel generalizing s with
  | zero => omega
  | succ fuel ih =>
    by_cases hp : ∀ f ∈ d.fields, ¬ f.Fails s.values
    · exact settles_rounds_of_passes hp
    · simp only [not_forall, not_not] at hp
      obtain ⟨f, hf, hv⟩ := hp
      refine settles_get.bind ?_
      rintro _ s ⟨rfl, rfl⟩
      simp only [Submission.submit_of_fails hf hv]
      refine settles_say.bind fun _ s₁ h₁ => ?_
      refine (settles_reask fun name => Document.field?_of_refused).bind fun _ s₂ h₂ => ?_
      cases h₂ with
      | read h₂ =>
        rw [h₁.1] at h₂
        exact ih (by omega)
      | silent hlines hput hkept =>
        obtain ⟨fuel, rfl⟩ : ∃ n, fuel = n + 1 := ⟨fuel - 1, by omega⟩
        exact settles_rounds_of_passes (Document.passes_of_putBack hd hput (h₁.2 ▸ hkept))

/-- A session that ends is the same with more fuel. -/
theorem approximates_rounds {fuel' : Nat} (h : fuel ≤ fuel') :
    Approximates (rounds verbose d config fuel) (rounds verbose d config fuel') := by
  induction fuel generalizing fuel' with
  | zero => exact approximates_endless _
  | succ fuel ih =>
    obtain ⟨fuel', rfl⟩ : ∃ n, fuel' = n + 1 := ⟨fuel' - 1, by omega⟩
    have hnext : Approximates (rounds verbose d config fuel) (rounds verbose d config fuel') :=
      ih (by omega)
    simp only [rounds]
    refine (Approximates.refl _).bind fun s => ?_
    cases (Submission.submit config passingSinks d s.values).1 with
    | ok r => exact .refl _
    | error e =>
      cases e with
      | invalid found =>
        exact (Approximates.refl _).bind fun _ => (Approximates.refl _).bind fun _ => hnext
      | _ => exact .refl _

/-- What is refused while it is put back already is refused for ever. -/
theorem rounds_endless (hrefused : d.refused s.values ≠ [])
    (hput : ∀ name ∈ d.refused s.values, d.PutBack s.values name) :
    (rounds verbose d config fuel s).1 = .error .endless := by
  induction fuel generalizing s with
  | zero => rfl
  | succ fuel ih =>
    obtain ⟨name, hname⟩ := List.exists_mem_of_ne_nil _ hrefused
    obtain ⟨f, hf, -, hv⟩ := Document.mem_refused_iff.mp hname
    have hreask (told : Session) (htold : told.values = s.values) :
        ∃ s', reask verbose d (d.refused s.values) told = (.ok (), s') ∧
          ∀ key, s'.values.get? key = s.values.get? key := by
      rw [← htold] at hput ⊢
      exact reask_of_putBack hput
    obtain ⟨s', hs', hkept⟩ := hreask { s with
      transcript := s.transcript ++ Transcript.fieldErrors (validate d.fields s.values).errors } rfl
    change reask verbose d (validate d.fields s.values).failingFields _ = _ at hs'
    have hround : rounds verbose d config (fuel + 1) s = rounds verbose d config fuel s' := by
      simp only [rounds, bind_eq, get_eq, Submission.submit_of_fails hf hv, say, modify_eq, hs']
    have hagain : d.refused s'.values = d.refused s.values := Document.refused_congr hkept
    rw [hround]
    exact ih (hagain ▸ hrefused) fun name h => ((hput name (hagain ▸ h)).congr hkept)

/-- A form with a hidden field, and a number of the same name that refuses its default. -/
def clashing : Document where
  identity := ⟨"Clashing", "clashing", "Tracks a campaign", none⟩
  sections := [.form ⟨none,
    [⟨"utm", "UTM", .hidden, none, false, [], some (.text "spring"), none, {}⟩,
      ⟨"utm", "UTM", .number, none, false, [], none, none, {}⟩]⟩]
  crm := none
  settings := none

/-- Where a field refuses the default of a hidden one of its name, the rounds may have no end,
whatever is still to be typed. -/
theorem clashing_endless (lines : List String) (fuel : Nat) :
    (rounds false clashing .default fuel
      ⟨lines, Dict.empty.insert "utm" (.text "spring"), []⟩).1 = .error .endless := by
  have hrefused : clashing.refused (Dict.empty.insert "utm" (.text "spring")) = ["utm"] := rfl
  refine rounds_endless (by simp [hrefused]) fun name hname => ?_
  obtain rfl := List.mem_singleton.mp (hrefused ▸ hname)
  exact ⟨_, rfl, rfl, rfl, rfl⟩

theorem settles_session (hd : d.AcceptsDefaults) :
    Settles (session verbose d config) s fun _ _ => True := by
  refine settles_run.bind fun _ s₁ _ => ?_
  refine settles_get.bind ?_
  rintro _ s ⟨rfl, rfl⟩
  refine settles_rounds hd ?_
  simp only [roundFuel]
  omega

/-- Each round that is refused ends the session, or reads a line, or does no more than to put hidden
fields back to defaults that the next round accepts. Therefore the rounds end, and no longer run of
them would come to anything else, and so does a run of the document with finitely many lines. -/
theorem run_progresses_and_ends (d : Document) (config : EngineConfig) (hd : d.AcceptsDefaults) :
    (∀ verbose s found,
      (Submission.submit config passingSinks d s.values).1 = .error (.invalid found) →
      Settles (reask verbose d found.failingFields) s fun _ s' =>
        s'.lines.length < s.lines.length ∨
        s'.lines = s.lines ∧ (∀ name ∈ found.failingFields, d.PutBack s'.values name) ∧
          (∀ name ∉ found.failingFields, s'.values.get? name = s.values.get? name) ∧
          ∃ report, (Submission.submit config passingSinks d s'.values).1 = .ok report) ∧
    (∀ verbose s fuel, roundFuel s.lines ≤ fuel →
      (rounds verbose d config fuel s).1 ≠ .error .endless ∧
      rounds verbose d config fuel s = rounds verbose d config (roundFuel s.lines) s) ∧
    ∀ w verbose values, (run w verbose d values config).2 ≠ some (.walk .endless) := by
  refine ⟨?_, ?_, ?_⟩
  · intro verbose s found hfound
    have hnames : found.failingFields = d.refused s.values := by
      cases Submission.submit_eq_error hfound
      rfl
    rw [hnames]
    refine (settles_reask fun name => Document.field?_of_refused).mono fun _ s' h => ?_
    cases h with
    | read h => exact .inl h
    | silent hlines hput hkept =>
      refine .inr ⟨hlines, hput, hkept, Submission.report config passingSinks d s'.values, ?_⟩
      rw [Submission.submit_of_passes (Document.passes_of_putBack hd hput hkept)]
  · intro verbose s fuel hfuel
    have hleast : s.lines.length + 2 ≤ roundFuel s.lines := by
      simp only [roundFuel]
      omega
    have hends : (rounds verbose d config (roundFuel s.lines) s).1 ≠ .error .endless :=
      (settles_rounds hd hleast).ne_endless
    have hsame := approximates_rounds hfuel s hends
    exact ⟨hsame ▸ hends, hsame⟩
  · intro w verbose values h
    have hends : (session verbose d config ⟨w.lines, values, []⟩).1 ≠ .error .endless :=
      (settles_session hd).ne_endless
    rcases hs : session verbose d config ⟨w.lines, values, []⟩ with ⟨outcome, s'⟩
    rw [hs] at hends
    simp only [run, hs] at h
    cases outcome with
    | ok _ => cases h
    | error failure =>
      cases h
      exact hends rfl

/-- A form with a hidden field of which the campaign is known. -/
def tracked : Document where
  identity := ⟨"Tracked", "tracked", "Tracks a campaign", none⟩
  sections := [.form ⟨none,
    [⟨"utm", "UTM", .hidden, none, true, [], some (.text "spring"), none, {}⟩]⟩]
  crm := none
  settings := none

def untracked : Values :=
  Dict.empty.insert "utm" (.text "")

theorem run_progresses_and_ends_tracked :
    tracked.AcceptsDefaults ∧ roundFuel [] ≤ 9 ∧
      (rounds false tracked .default 9 ⟨[], untracked, []⟩).1 ≠ .error .endless ∧
      (∃ found s', (Submission.submit .default passingSinks tracked untracked).1 =
          .error (.invalid found) ∧
        reask false tracked found.failingFields ⟨[], untracked, []⟩ = (.ok (), s') ∧
        ∃ report, (Submission.submit .default passingSinks tracked s'.values).1 = .ok report) := by
  have hd : tracked.AcceptsDefaults := Document.acceptsDefaults_of_nodup (by decide)
  obtain ⟨hround, hrounds, -⟩ := run_progresses_and_ends tracked .default hd
  refine ⟨hd, by decide, (hrounds false ⟨[], untracked, []⟩ 9 (by decide)).1, _, _, rfl, rfl, ?_⟩
  rcases hround false ⟨[], untracked, []⟩ _ rfl with h | h
  · cases h
  · exact h.2.2.2

/-- A blank for the campaign is refused, and asking again neither reads a line nor stops. -/
theorem tracked_refused_silently :
    ∃ found s', (Submission.submit .default passingSinks tracked untracked).1 =
        .error (.invalid found) ∧ found.errors = [⟨"utm", "UTM is required", "required"⟩] ∧
      reask false tracked found.failingFields ⟨["Jo"], untracked, []⟩ = (.ok (), s') ∧
      s'.lines = ["Jo"] :=
  ⟨_, _, rfl, rfl, rfl, rfl⟩

end Console

end AppDef
