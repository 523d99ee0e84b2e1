import AppDef.Proofs.Contact
import AppDef.Proofs.Json.Printing
import Mathlib.Data.List.Forall2

namespace AppDef

theorem Text.val_toLower (c : Char) : c.toLower.val =
    if c.val ≥ 'A'.val ∧ c.val ≤ 'Z'.val then c.val + ('a'.val - 'A'.val) else c.val :=
  apply_dite Char.val (c.val ≥ 'A'.val ∧ c.val ≤ 'Z'.val) _ _

theorem Text.val_toUpper (c : Char) : c.toUpper.val =
    if 'a'.val ≤ c.val ∧ c.val ≤ 'z'.val then c.val + ('A'.val - 'a'.val) else c.val :=
  apply_dite Char.val ('a'.val ≤ c.val ∧ c.val ≤ 'z'.val) _ _

theorem Text.toLower_eq_iff {c letter : Char} (h : letter.isLower = true) :
    c.toLower = letter ↔ c = letter ∨ c = letter.toUpper := by
  change (decide (letter.val ≥ 'a'.val) && decide (letter.val ≤ 'z'.val)) = true at h
  simp only [Bool.and_eq_true, decide_eq_true_eq, ge_iff_le, UInt32.le_iff_toNat_le] at h
  simp only [Char.ext_iff, val_toLower, val_toUpper, ← UInt32.toNat_inj]
  split <;> split <;> grind [UInt32.toNat_add, UInt32.toNat_sub, UInt32.le_iff_toNat_le]

/-- Texts that are one in lower case have the same letters in either case. -/
theorem Text.map_toLower_eq_iff {s letters : List Char} (h : ∀ c ∈ letters, c.isLower = true) :
    s.map Char.toLower = letters ↔
      List.Forall₂ (fun letter c => c = letter ∨ c = letter.toUpper) letters s := by
  induction letters generalizing s with
  | nil => simp
  | cons letter letters ih =>
    obtain ⟨hletter, hletters⟩ := List.forall_mem_cons.mp h
    cases s with
    | nil => simp
    | cons c s =>
      simp only [List.map_cons, List.cons.injEq, List.forall₂_cons, ih hletters,
        Text.toLower_eq_iff hletter]

namespace ContactAttribute

/-- Without its separators the target is the name of the attribute, each letter in either case. -/
def Denotes (target : String) (a : ContactAttribute) : Prop :=
  List.Forall₂ (fun letter c => c = letter ∨ c = letter.toUpper) a.canonical.toList
    (target.toList.filter (!isSeparator ·))

instance (target : String) (a : ContactAttribute) : Decidable (Denotes target a) :=
  inferInstanceAs (Decidable (List.Forall₂ _ _ _))

theorem denotes_iff {target : String} {a : ContactAttribute} :
    Denotes target a ↔ ofTarget? target = some a := by
  have hlower : a.canonical.toList.all Char.isLower = true := by
    cases a <;> rfl
  rw [Denotes, ← Text.map_toLower_eq_iff (List.all_eq_true.mp hlower)]
  constructor
  · intro h
    have hname : normalize target = a.canonical := by
      simp only [normalize, Text.lowercase, String.toList_ofList]
      rw [h, String.ofList_toList]
    simp only [ofTarget?, hname]
    cases a <;> rfl
  · intro h
    unfold ofTarget? at h
    have hname := List.find?_some h
    rw [beq_iff_eq.mp hname]
    simp [normalize, Text.lowercase]

end ContactAttribute

/-- Whatever answers a field shows something that is not blank. -/
theorem Json.exists_mem_display {v : Json} (h : v.isBlank = false) :
    ∃ c ∈ v.display.toList, Text.isBlank c = false := by
  cases v with
  | null => cases h
  | bool b => cases b <;> exact ⟨'e', by decide, by decide⟩
  | number n =>
    obtain ⟨c, hc⟩ := List.exists_mem_of_ne_nil _ (AppDef.Number.display_ne_nil n.toFloat)
    exact ⟨c, hc, noBlank_display n.toFloat c hc⟩
  | text s => simpa [isBlank, display, Text.allBlank] using h
  | array items =>
    cases items with
    | nil => cases h
    | cons v items =>
      have htext : (array (v :: items)).display = (array (v :: items)).print := rfl
      exact ⟨'[', by simp [htext, toList_print_array], by decide⟩
  | object members =>
    cases members with
    | nil => exact ⟨'\x7b', by decide, by decide⟩
    | cons m members =>
      obtain ⟨key, v⟩ := m
      have htext : (object ((key, v) :: members)).display =
          (object ((key, v) :: members)).print := rfl
      exact ⟨'\x7b', by simp [htext, toList_print_object], by decide⟩

namespace Contact

variable {crm : Crm} {values : Values} {a : ContactAttribute} {keys : List String}

/-- What the first of the keys with an answer tells, if one of them has an answer. -/
inductive FirstTold (values : Values) : List String → Option String → Prop
  | untold {keys : List String} : (∀ key ∈ keys, Json.unanswered (values.get? key) = true) →
      FirstTold values keys none
  | told {before after : List String} {key : String} {v : Json} :
      (∀ earlier ∈ before, Json.unanswered (values.get? earlier) = true) →
      values.get? key = some v → v.isBlank = false →
      FirstTold values (before ++ key :: after) (some (Text.trimmed v.display))

theorem present?_of_unanswered {key : String} (h : Json.unanswered (values.get? key) = true) :
    present? values key = none := by
  simp [present?, h]

theorem firstTold_findSome? (values : Values) (keys : List String) :
    FirstTold values keys (keys.findSome? (present? values)) := by
  rcases all_or_first (fun key => Json.unanswered (values.get? key) = true) keys with
    hall | ⟨before, key, after, rfl, hbefore, hkey⟩
  · have hnone : keys.findSome? (present? values) = none :=
      List.findSome?_eq_none_iff.mpr fun key hkey => present?_of_unanswered (hall key hkey)
    exact hnone ▸ .untold hall
  · have hkey : Json.unanswered (values.get? key) = false := Bool.not_eq_true _ ▸ hkey
    obtain ⟨v, hv⟩ : ∃ v, values.get? key = some v := by
      cases hv : values.get? key with
      | none =>
        rw [hv] at hkey
        cases hkey
      | some v => exact ⟨v, rfl⟩
    have hblank : v.isBlank = false := by
      rw [hv] at hkey
      exact hkey
    have hskip : before.findSome? (present? values) = none :=
      List.findSome?_eq_none_iff.mpr fun key hkey => present?_of_unanswered (hbefore key hkey)
    rw [List.findSome?_append, hskip, List.findSome?_cons, present?_eq hkey hv]
    exact .told hbefore hv hblank

theorem FirstTold.trimmed {told? : Option String} (h : FirstTold values keys told?) {text : String}
    (ht : told? = some text) : text ≠ "" ∧ Text.trimmed text = text := by
  cases h with
  | untold _ => cases ht
  | @told before after key v _ _ hblank =>
    cases ht
    obtain ⟨c, hc, hc'⟩ := Json.exists_mem_display hblank
    constructor
    · intro hempty
      apply Text.trim_ne_nil hc hc'
      rw [← String.toList_ofList (l := Text.trim v.display.toList)]
      exact String.toList_eq_nil_iff.mpr hempty
    · simp [Text.trimmed, Text.trim_trim]

theorem FirstTold.eq_none_iff {told? : Option String} (h : FirstTold values keys told?) :
    told? = none ↔ ∀ key ∈ keys, Json.unanswered (values.get? key) = true := by
  cases h with
  | untold hall => simpa using hall
  | @told before after key v _ hv hblank =>
    constructor
    · intro hnone
      cases hnone
    · intro hall
      have hkey := hall key (by simp)
      rw [hv] at hkey
      exact absurd hkey (by simp [Json.unanswered, hblank])

/-- What is told of each attribute so far. -/
abbrev Slots := ContactAttribute → Option String

/-- An entry of a mapping fills the slot that its target names, unless that is filled. -/
def fill (values : Values) (slots : Slots) (entry : String × String) : Slots := fun a =>
  if ContactAttribute.ofTarget? entry.2 = some a then (slots a).or (present? values entry.1)
  else slots a

theorem foldl_fill (entries : List (String × String)) (slots : Slots) :
    entries.foldl (fill values) slots a = (slots a).or
      (((entries.filter fun entry => ContactAttribute.ofTarget? entry.2 == some a).map
        (·.1)).findSome? (present? values)) := by
  induction entries generalizing slots with
  | nil => simp
  | cons entry entries ih =>
    rw [List.foldl_cons, ih]
    by_cases h : ContactAttribute.ofTarget? entry.2 = some a
    · cases hs : slots a <;> cases hp : present? values entry.1 <;> simp [fill, h, hs, hp]
    · simp [fill, h]

/-- The fields that may tell an attribute: those that are mapped to it, as they stand in the mapping,
and its fallbacks. -/
def consulted (crm : Crm) (a : ContactAttribute) : List String :=
  (crm.fieldMap.filter fun entry => ContactAttribute.Denotes entry.2 a).map (·.1) ++ a.fallbackKeys

theorem consulted_eq (crm : Crm) (a : ContactAttribute) : consulted crm a = keysFor crm a := by
  have hsame : (fun entry : String × String => decide (ContactAttribute.Denotes entry.2 a)) =
      fun entry => ContactAttribute.ofTarget? entry.2 == some a := by
    funext entry
    rw [Bool.eq_iff_iff, decide_eq_true_iff, ContactAttribute.denotes_iff, beq_iff_eq]
  simp only [consulted, keysFor, hsame]

/-- The entries of a mapping whose targets name an attribute. -/
def effective (fieldMap : List (String × String)) : List (String × String) :=
  fieldMap.filter fun entry => ContactAttribute.all.any (ContactAttribute.Denotes entry.2 ·)

theorem keysFor_effective (crm : Crm) (a : ContactAttribute) :
    keysFor { crm with fieldMap := effective crm.fieldMap } a = keysFor crm a := by
  have hkept (target : String) : (ContactAttribute.ofTarget? target == some a &&
      ContactAttribute.all.any (ContactAttribute.Denotes target ·)) =
        (ContactAttribute.ofTarget? target == some a) := by
    rw [Bool.and_eq_left_iff_imp]
    intro h
    apply List.any_eq_true.mpr
    refine ⟨a, ?_, decide_eq_true (ContactAttribute.denotes_iff.mpr (beq_iff_eq.mp h))⟩
    cases a <;> decide
  simp only [keysFor, effective, List.filter_filter, hkept]

/-- Each attribute tells the first answer among the fields that may tell it, without the blanks around
it, as one pass over the mapping finds it too; it tells nothing only if none of them is answered. -/
theorem build_tells_first (crm : Crm) (values : Values) (defaultSource : String) :
    (∃ told? : ContactAttribute → Option String,
      build crm values defaultSource = {
        firstName := (told? .firstName).getD ""
        lastName := told? .lastName
        email := told? .email
        phone := told? .phone
        source := if Text.allBlank crm.source then defaultSource else crm.source
        tags := crm.tags } ∧
      ∀ a, FirstTold values (consulted crm a) (told? a) ∧
        (told? a = none ↔ ∀ key ∈ consulted crm a, Json.unanswered (values.get? key) = true) ∧
        (∀ text, told? a = some text → text ≠ "" ∧ Text.trimmed text = text) ∧
        told? a = (crm.fieldMap.foldl (fill values) (fun _ => none) a).or
          (a.fallbackKeys.findSome? (present? values))) ∧
    build { crm with fieldMap := effective crm.fieldMap } values defaultSource =
      build crm values defaultSource := by
  constructor
  · refine ⟨attribute? crm values, rfl, ?_⟩
    intro a
    have hfirst : FirstTold values (consulted crm a) (attribute? crm values a) := by
      rw [consulted_eq]
      exact firstTold_findSome? values (keysFor crm a)
    refine ⟨hfirst, hfirst.eq_none_iff, fun text => hfirst.trimmed, ?_⟩
    rw [foldl_fill, Option.none_or]
    exact List.findSome?_append
  · simp only [build, attribute?, keysFor_effective]

/-- A first name that is mapped but blank, under a target of another spelling, and one to fall back
to. -/
def givenName : Crm :=
  ⟨"", {}, none, [("given", "First-Name"), ("age", "shoeSize")]⟩

def answered : Values :=
  (Dict.empty.insert "given" (.text "  ")).insert "name" (.text " Sam ")

theorem build_tells_first_givenName :
    ∃ told? : ContactAttribute → Option String, told? .firstName = some "Sam" ∧
      ("Sam" ≠ "" ∧ Text.trimmed "Sam" = "Sam") ∧
      FirstTold answered ["given", "first_name", "firstName", "name"] (some "Sam") := by
  obtain ⟨told?, hbuild, htold⟩ := (build_tells_first givenName answered "app").1
  obtain ⟨hfirst, -, htrimmed, -⟩ := htold .firstName
  have hsam : told? .firstName = some "Sam" := by
    have hname : (told? .firstName).getD "" = "Sam" :=
      (congrArg Contact.firstName hbuild).symm.trans (by decide +kernel)
    cases ht : told? .firstName with
    | none =>
      rw [ht] at hname
      exact absurd hname (by decide)
    | some text =>
      rw [ht] at hname
      exact congrArg some hname
  have hkeys : consulted givenName .firstName = ["given", "first_name", "firstName", "name"] := by
    decide
  rw [hkeys, hsam] at hfirst
  exact ⟨told?, hsam, htrimmed "Sam" hsam, hfirst⟩

end Contact

end AppDef
