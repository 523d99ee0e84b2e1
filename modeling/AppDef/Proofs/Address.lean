import AppDef.Proofs.Pattern.Agreement
import AppDef.Proofs.Pattern.Matching

namespace AppDef

/-- The text is of the form `local@domain.tld`. -/
structure IsAddress (s : List Char) : Prop where
  oneSign : s.count '@' = 1
  noBlank : ∀ c ∈ s, Text.isBlank c = false
  parts : ∃ mailbox before after, s = mailbox ++ '@' :: (before ++ '.' :: after) ∧
    mailbox ≠ [] ∧ before ≠ [] ∧ after ≠ []

namespace Pattern

variable {set : CharSet} {c : Char} {before s : List Char} {j : Nat}

/-- One character of the set or more. -/
def CharSet.Runs (set : CharSet) (run : List Char) : Prop :=
  run ≠ [] ∧ ∀ c ∈ run, set.contains c.toNat = true

theorem leads_one_iff : Leads (before ++ s) (.one set) before.length j ↔
    ∃ c t, s = c :: t ∧ set.contains c.toNat = true ∧ j = (before ++ [c]).length := by
  simp only [Leads, List.getElem?_append_right (Nat.le_refl _), Nat.sub_self,
    List.length_append, List.length_singleton]
  cases s with
  | nil => simp
  | cons c t => simp

/-- So many characters of the set lead behind them. -/
theorem times_one_iff {n : Nat} : Times (Leads (before ++ s) (.one set)) n before.length j ↔
    ∃ run t, s = run ++ t ∧ run.length = n ∧ (∀ c ∈ run, set.contains c.toNat = true) ∧
      j = (before ++ run).length := by
  induction n generalizing before s with
  | zero =>
    constructor
    · rintro ⟨⟩
      exact ⟨[], s, rfl, rfl, List.forall_mem_nil _, by rw [List.append_nil]⟩
    · rintro ⟨run, t, -, hrun, -, rfl⟩
      rw [List.length_eq_zero_iff.mp hrun, List.append_nil]
      exact .none
  | succ n ih =>
    constructor
    · intro h
      cases h with
      | more hstep h =>
        obtain ⟨c, t, rfl, hc, rfl⟩ := leads_one_iff.mp hstep
        rw [List.append_cons] at h
        obtain ⟨run, t, rfl, rfl, hrun, rfl⟩ := ih.mp h
        exact ⟨c :: run, t, rfl, rfl, List.forall_mem_cons.mpr ⟨hc, hrun⟩, by simp⟩
    · rintro ⟨run, t, rfl, hn, hrun, rfl⟩
      cases run with
      | nil => cases hn
      | cons c run =>
        obtain ⟨hc, hrun⟩ := List.forall_mem_cons.mp hrun
        refine .more (leads_one_iff.mpr ⟨c, run ++ t, rfl, hc, rfl⟩) ?_
        rw [List.cons_append, List.append_cons]
        exact ih.mpr ⟨run, t, rfl, Nat.succ.inj hn, hrun, by simp⟩

theorem leads_oneOrMore_iff : Leads (before ++ s) (oneOrMore set) before.length j ↔
    ∃ run t, s = run ++ t ∧ set.Runs run ∧ j = (before ++ run).length := by
  simp only [oneOrMore, Leads, Option.not_mem_none, false_implies, implies_true, true_and]
  constructor
  · rintro ⟨n, hn, h⟩
    obtain ⟨run, t, rfl, rfl, hrun, rfl⟩ := times_one_iff.mp h
    exact ⟨run, t, rfl, ⟨List.ne_nil_of_length_pos hn, hrun⟩, rfl⟩
  · rintro ⟨run, t, rfl, ⟨hne, hrun⟩, rfl⟩
    exact ⟨run.length, List.length_pos_iff.mpr hne, times_one_iff.mpr ⟨run, t, rfl, rfl, hrun, rfl⟩⟩

theorem contains_single_iff {d : Char} : (CharSet.single d).contains c.toNat = true ↔ c = d := by
  simp only [CharSet.single, CharSet.contains, Unicode.inRanges, List.any_cons, List.any_nil,
    Bool.or_false, Bool.and_eq_true, decide_eq_true_eq]
  rw [← Char.toNat_inj]
  omega

theorem contains_addressPart_iff :
    addressPart.contains c.toNat = true ↔ Text.isBlank c = false ∧ c ≠ '@' := by
  simp only [addressPart, CharSet.contains, containedInAny, Bool.or_false, Bool.not_eq_true',
    Bool.or_eq_false_iff, ne_eq, ← contains_single_iff (c := c), Bool.not_eq_true]
  rfl

theorem leadsAll_run_iff {ps : List Pattern} :
    LeadsAll (before ++ s) (oneOrMore set :: ps) before.length j ↔
      ∃ run t, s = run ++ t ∧ set.Runs run ∧
        LeadsAll ((before ++ run) ++ t) ps (before ++ run).length j := by
  simp only [LeadsAll, leads_oneOrMore_iff]
  constructor
  · rintro ⟨_, ⟨run, t, rfl, hrun, rfl⟩, h⟩
    exact ⟨run, t, rfl, hrun, by rwa [List.append_assoc]⟩
  · rintro ⟨run, t, rfl, hrun, h⟩
    exact ⟨_, ⟨run, t, rfl, hrun, rfl⟩, by rwa [List.append_assoc] at h⟩

theorem leadsAll_single_iff {ps : List Pattern} {d : Char} :
    LeadsAll (before ++ s) (.one (.single d) :: ps) before.length j ↔
      ∃ t, s = d :: t ∧ LeadsAll ((before ++ [d]) ++ t) ps (before ++ [d]).length j := by
  simp only [LeadsAll, leads_one_iff]
  constructor
  · rintro ⟨_, ⟨c, t, rfl, hc, rfl⟩, h⟩
    obtain rfl := contains_single_iff.mp hc
    exact ⟨t, rfl, by rwa [← List.append_cons]⟩
  · rintro ⟨t, rfl, h⟩
    exact ⟨_, ⟨d, t, rfl, contains_single_iff.mpr rfl, rfl⟩, by rwa [← List.append_cons] at h⟩

theorem leadsAll_stop_iff :
    LeadsAll (before ++ s) [.look .stop] before.length j ↔ s = [] ∧ j = before.length := by
  simp only [LeadsAll, Leads, Look.holds, beq_iff_eq, List.length_append]
  constructor
  · rintro ⟨_, ⟨hs, rfl⟩, rfl⟩
    exact ⟨List.length_eq_zero_iff.mp (by omega), rfl⟩
  · rintro ⟨rfl, rfl⟩
    exact ⟨_, ⟨rfl, rfl⟩, rfl⟩

theorem leadsAll_start_iff {ps : List Pattern} {i : Nat} :
    LeadsAll s (.look .start :: ps) i j ↔
      i = 0 ∧ LeadsAll ([] ++ s) ps ([] : List Char).length j := by
  simp only [LeadsAll, Leads, Look.holds, beq_iff_eq, List.nil_append, List.length_nil]
  constructor
  · rintro ⟨_, ⟨rfl, rfl⟩, h⟩
    exact ⟨rfl, h⟩
  · rintro ⟨rfl, h⟩
    exact ⟨0, ⟨rfl, rfl⟩, h⟩

theorem occursIn_emailAddress_iff {text : String} : emailAddress.occursIn text = true ↔
    ∃ mailbox before after, text.toList = mailbox ++ '@' :: (before ++ '.' :: after) ∧
      addressPart.Runs mailbox ∧ addressPart.Runs before ∧ addressPart.Runs after := by
  simp only [occursIn_iff, emailAddress, Leads, leadsAll_start_iff, leadsAll_run_iff,
    leadsAll_single_iff, leadsAll_stop_iff]
  constructor
  · rintro ⟨_, -, _, rfl, mailbox, _, hs, hmailbox, _, rfl, before, _, rfl, hbefore, _, rfl, after,
      _, rfl, hafter, rfl, -⟩
    exact ⟨mailbox, before, after, by simpa using hs, hmailbox, hbefore, hafter⟩
  · rintro ⟨mailbox, before, after, hs, hmailbox, hbefore, hafter⟩
    exact ⟨0, Nat.zero_le _, _, rfl, mailbox, _, hs, hmailbox, _, rfl, before, _, rfl, hbefore, _,
      rfl, after, [], (List.append_nil _).symm, hafter, rfl, rfl⟩

theorem runs_addressPart_iff {run : List Char} : addressPart.Runs run ↔
    run ≠ [] ∧ (∀ c ∈ run, Text.isBlank c = false) ∧ run.count '@' = 0 := by
  simp only [CharSet.Runs, contains_addressPart_iff, List.count_eq_zero]
  constructor
  · rintro ⟨hne, hrun⟩
    exact ⟨hne, fun c hc => (hrun c hc).1, fun hmem => (hrun '@' hmem).2 rfl⟩
  · rintro ⟨hne, hblank, hsign⟩
    exact ⟨hne, fun c hc => ⟨hblank c hc, fun h => hsign (h ▸ hc)⟩⟩

/-- The pattern asks for an address: the at sign that it takes is the only one. -/
theorem occursIn_emailAddress {text : String} :
    emailAddress.occursIn text = true ↔ IsAddress text.toList := by
  have hcount (mailbox before after : List Char) :
      (mailbox ++ '@' :: (before ++ '.' :: after)).count '@' =
        mailbox.count '@' + (before.count '@' + after.count '@' + 1) := by
    rw [List.count_append, List.count_cons_self, List.count_append,
      List.count_cons_of_ne (by decide)]
  rw [occursIn_emailAddress_iff]
  simp only [runs_addressPart_iff]
  constructor
  · rintro ⟨mailbox, before, after, hs, ⟨hm, hmailbox, hm₀⟩, ⟨hb, hbefore, hb₀⟩, ha, hafter, ha₀⟩
    have hat : Text.isBlank '@' = false := by decide
    have hpoint : Text.isBlank '.' = false := by decide
    refine ⟨?_, ?_, mailbox, before, after, hs, hm, hb, ha⟩
    · rw [hs, hcount, hm₀, hb₀, ha₀]
    · simp only [hs, List.forall_mem_append, List.forall_mem_cons]
      exact ⟨hmailbox, hat, hbefore, hpoint, hafter⟩
  · rintro ⟨hsign, hblank, mailbox, before, after, hs, hm, hb, ha⟩
    simp only [hs, List.forall_mem_append, List.forall_mem_cons] at hblank
    obtain ⟨hmailbox, -, hbefore, -, hafter⟩ := hblank
    rw [hs, hcount] at hsign
    exact ⟨mailbox, before, after, hs, ⟨hm, hmailbox, by omega⟩, ⟨hb, hbefore, by omega⟩, ha,
      hafter, by omega⟩

end Pattern

namespace Field

variable {f : Field} {v : Json}

/-- An email field without a pattern of its own accepts exactly the addresses among the values that
are not blank, and says of all others that they are none. -/
theorem email_accepted_iff (hkind : f.kind = .email) (hpattern : f.bounds.pattern = none)
    (hanswer : Json.unanswered (some v) = false) :
    (f.check (some v) = none ↔ IsAddress (Text.trimmed v.display).toList) ∧
      (¬ IsAddress (Text.trimmed v.display).toList →
        f.check (some v) = some (f.report .notAnEmail)) := by
  have htext : f.kind.isTextLike = true := by rw [hkind]; rfl
  have hcheck : f.check (some v) = if Pattern.emailAddress.occursIn (Text.trimmed v.display) then
      none else some (f.report .notAnEmail) := by
    rw [check, violation?_of_text htext hanswer]
    cases hmatch : Pattern.emailAddress.occursIn (Text.trimmed v.display) <;>
      simp [textViolation?, hkind, hpattern, hmatch]
  rw [hcheck, ← Pattern.occursIn_emailAddress]
  cases Pattern.emailAddress.occursIn (Text.trimmed v.display) <;> simp

/-- A field for an address, with nothing else asked of it. -/
def mail : Field where
  name := "email"
  label := "Email"
  kind := .email
  placeholder := none
  required := true
  options := []
  defaultValue := none
  constraints := none
  extra := .empty

/-- Several points in the domain are no harm, nor are blanks around the address; a second at sign
is. -/
theorem email_accepted_iff_ada :
    mail.check (some (.text " ada@lab.example.org ")) = none ∧
      mail.check (some (.text "ada@lab@example.org")) = some (mail.report .notAnEmail) := by
  have hada : (Text.trimmed (Json.text " ada@lab.example.org ").display).toList =
      "ada".toList ++ '@' :: ("lab".toList ++ '.' :: "example.org".toList) := by decide +kernel
  have htwo : (Text.trimmed (Json.text "ada@lab@example.org").display).toList.count '@' = 2 := by
    decide +kernel
  have haddress :
      IsAddress ("ada".toList ++ '@' :: ("lab".toList ++ '.' :: "example.org".toList)) := by
    refine ⟨by decide, ?_, _, _, _, rfl, by decide, by decide, by decide⟩
    simp [Text.isBlank, Text.blanks]
  constructor
  · exact (email_accepted_iff rfl rfl (by decide +kernel)).1.mpr (hada ▸ haddress)
  · refine (email_accepted_iff rfl rfl (by decide +kernel)).2 fun h => ?_
    have hone := h.oneSign
    rw [htwo] at hone
    cases hone

end Field

end AppDef
