import AppDef.Contact
import AppDef.Proofs.Choice
import AppDef.Proofs.Template.Placeholder
import AppDef.Proofs.Text

namespace AppDef

namespace Contact

variable {crm : Crm} {values : Values} {a : ContactAttribute} {key : String} {v : Json}

/-- What a contact tells of an attribute. -/
def told? (c : Contact) : ContactAttribute → Option String
  | .firstName => some c.firstName
  | .lastName => c.lastName
  | .email => c.email
  | .phone => c.phone

/-- The first of the fields that may tell an attribute and are answered. -/
def source? (crm : Crm) (values : Values) (a : ContactAttribute) : Option String :=
  (keysFor crm a).find? fun key => !Json.unanswered (values.get? key)

theorem present?_eq (hanswered : Json.unanswered (values.get? key) = false)
    (hv : values.get? key = some v) : present? values key = some (Text.trimmed v.display) := by
  unfold present?
  dsimp only
  rw [hanswered, hv]
  rfl

theorem findSome?_present? {keys : List String}
    (hkey : keys.find? (fun key => !Json.unanswered (values.get? key)) = some key)
    (hv : values.get? key = some v) :
    keys.findSome? (present? values) = some (Text.trimmed v.display) := by
  induction keys with
  | nil => cases hkey
  | cons first keys ih =>
    rw [List.findSome?_cons]
    cases hu : Json.unanswered (values.get? first) with
    | true =>
      have hnone : present? values first = none := by
        unfold present?
        dsimp only
        rw [hu]
        rfl
      rw [List.find?_cons_of_neg (by simp [hu])] at hkey
      rw [hnone]
      exact ih hkey
    | false =>
      rw [List.find?_cons_of_pos (by simp [hu])] at hkey
      cases hkey
      rw [present?_eq hu hv]

theorem told?_build (crm : Crm) (values : Values) (source : String)
    (h : attribute? crm values a = some key) : (build crm values source).told? a = some key := by
  cases a <;> simp [build, told?, h]

end Contact

theorem noBlank_display (x : Float) : ∀ c ∈ (Number.display x).toList, Text.isBlank c = false := by
  intro c hc
  rcases Number.mem_display hc with h | h
  · have hmarks : Number.marks.all (fun c => !Text.isBlank c) = true := by decide
    simpa using List.all_eq_true.mp hmarks c h
  · have hcode : 48 ≤ c.toNat ∧ c.toNat ≤ 57 := by
      simpa [Char.isDigit, UInt32.le_iff_toNat_le] using h
    rw [← Bool.not_eq_true]
    intro hblank
    have := Template.code_of_isBlank hblank
    omega

/-- A whole number is displayed by its numeral exactly if it has up to 53 bits or is what the digits
of the float that it becomes show; a contact tells the numeral from the first answered field for the
same numbers, and an option of the numeral accepts them. -/
theorem whole_number_unchanged (i : ℤ) :
    (Json.display (.number (.whole i)) = toString i ↔ Number.ShowsExactly i) ∧
      (∀ crm values source a key, Contact.source? crm values a = some key →
        values.get? key = some (.number (.whole i)) →
          ((Contact.build crm values source).told? a = some (toString i) ↔
            Number.ShowsExactly i)) ∧
      ∀ f : Field, f.kind.hasOptions = true → Number.ShowsExactly i →
        (f.check (some (.number (.whole i))) = none ↔
          f.options = [] ∨ ∃ o ∈ f.options, o.value = toString i) := by
  have hiff : Json.display (.number (.whole i)) = toString i ↔ Number.ShowsExactly i :=
    Number.display_ofInt_iff i
  refine ⟨hiff, ?_, ?_⟩
  · intro crm values source a key hkey hv
    have hattribute : Contact.attribute? crm values a = some _ :=
      Contact.findSome?_present? hkey hv
    have hkept : Text.trimmed (Json.display (.number (.whole i))) =
        Json.display (.number (.whole i)) := by
      have hnone := noBlank_display (Json.Number.whole i).toFloat
      change Text.trimmed (Number.display (Json.Number.whole i).toFloat) = _
      rw [Text.trimmed, Text.trim_of_noBlank hnone, String.ofList_toList]
      rfl
    rw [Contact.told?_build crm values source hattribute, hkept, Option.some.injEq]
    exact hiff
  · intro f hk hexact
    have hchoice : FieldOption.IsChoice (.number (.whole i)) := trivial
    rw [← hiff.mpr hexact]
    exact (Field.check_choice hk hchoice).1

/-- A phone number that is submitted as a number. -/
def phoneValues (i : ℤ) : Values :=
  Dict.empty.insert "phone" (.number (.whole i))

theorem whole_number_unchanged_phone :
    Contact.source? .empty (phoneValues 4155550100) .phone = some "phone" ∧
      (Contact.build .empty (phoneValues 4155550100) "app").phone = some "4155550100" :=
  ⟨rfl, ((whole_number_unchanged 4155550100).2.1 .empty (phoneValues 4155550100) "app" .phone
    "phone" rfl rfl).mpr (.inl (by decide))⟩

/-- A number of 54 bits reaches the contact as its even neighbour, which is not the option of its
numeral, and the largest number of 64 bits is displayed with zeros at its end. -/
theorem large_number_changed :
    Json.display (.number (.whole 9007199254740993)) = "9007199254740992" ∧
      (Contact.build .empty (phoneValues 9007199254740993) "app").phone =
        some "9007199254740992" ∧
      (Field.ofMembers (Field.sizeMembers (.text "9007199254740993"))).check
          (some (.number (.whole 9007199254740993))) =
        some ⟨"size", "Size must be one of the listed options", "invalid_option"⟩ ∧
      Json.display (.number (.whole 18446744073709551615)) = "18446744073709552000" :=
  ⟨by decide +kernel, by decide +kernel, by decide +kernel, by decide +kernel⟩

end AppDef
