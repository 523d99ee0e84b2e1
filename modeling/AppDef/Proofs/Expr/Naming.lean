import AppDef.Document.Field
import AppDef.Expr.Eval
import AppDef.Proofs.Expr.Tree

namespace AppDef.Expr

/-- The name can stand for a value. -/
structure IsVariable (name : String) : Prop where
  free : name ∉ reserved
  starts : ∀ c ∈ name.toList.head?, isNameStart c = true

variable {name : String} {e : Expr} {c : Char} {s : List Char}

theorem code_of_isNameStart (h : isNameStart c = true) :
    97 ≤ c.toNat ∧ c.toNat ≤ 122 ∨ 65 ≤ c.toNat ∧ c.toNat ≤ 90 ∨ c.toNat = 95 := by
  simp only [isNameStart, Text.isLetter, Text.isLower, Text.isUpper, Bool.or_eq_true,
    Bool.and_eq_true, decide_eq_true_eq, beq_iff_eq, or_assoc] at h
  rcases h with h | h | rfl
  · exact .inl h
  · exact .inr (.inl h)
  · exact .inr (.inr rfl)

theorem not_isBlank_of_isNameStart (h : isNameStart c = true) : Text.isBlank c = false := by
  have hcode := code_of_isNameStart h
  rw [← Bool.not_eq_true]
  intro hb
  simp only [Text.isBlank, Text.blanks, List.any_cons, List.any_nil, Bool.or_eq_true,
    Bool.and_eq_true, decide_eq_true_eq, Bool.false_eq_true, or_false] at hb
  omega

theorem not_isDigit_of_isNameStart (h : isNameStart c = true) : Text.isDigit c = false := by
  have hcode := code_of_isNameStart h
  rw [← Bool.not_eq_true]
  intro hd
  have hdigit : 48 ≤ c.toNat ∧ c.toNat ≤ 57 := by
    simp only [Text.isDigit, Bool.and_eq_true, decide_eq_true_eq] at hd
    exact hd
  omega

/-- What an identifier is made of can be in a name, and all but its digits can start one. -/
theorem isNamePart_of_identifier
    (h : (Text.isLower c || Text.isDigit c || c == '_') = true) :
    isNamePart c = true ∧ (isNameStart c = true ↔ Text.isDigit c = false) := by
  constructor
  · simp only [isNamePart, Text.isAlphanumeric, Text.isLetter, Bool.or_eq_true] at h ⊢
    tauto
  · constructor
    · exact not_isDigit_of_isNameStart
    · intro hd
      simp only [isNameStart, Text.isLetter, Bool.or_eq_true] at h ⊢
      simp only [hd, Bool.false_eq_true, or_false] at h
      tauto

/-- A token is a name only if it starts like one. -/
theorem token_starts {n : Nat} (h : token c s = .ok (.name name, n)) :
    ∀ c ∈ name.toList.head?, isNameStart c = true := by
  unfold token at h
  split at h
  · cases h
  · split at h
    · split at h <;> cases h
    · split at h
      · rename_i hstart
        cases h
        simpa using hstart
      · split at h <;> cases h

theorem lexFrom_starts {position taken : Nat} {lexemes : List Lexeme}
    (h : lexFrom position taken s = .ok lexemes) :
    ∀ l ∈ lexemes, l.token = .name name → ∀ c ∈ name.toList.head?, isNameStart c = true := by
  induction s generalizing position taken lexemes with
  | nil =>
    cases taken <;> cases h <;> exact fun l hl => absurd hl List.not_mem_nil
  | cons c s ih =>
    cases taken with
    | succ taken => exact ih h
    | zero =>
      simp only [lexFrom] at h
      split at h
      · exact ih h
      · split at h
        · cases h
        · rename_i t more ht
          obtain ⟨rest, hrest, rfl⟩ := except_map_eq_ok.mp h
          intro l hl hname
          rcases List.mem_cons.mp hl with rfl | hl
          · cases hname
            exact token_starts ht
          · exact ih hrest l hl hname

theorem nameTail_eq_length (h : ∀ c ∈ s, isNamePart c = true) : nameTail s = s.length := by
  induction s with
  | nil => rfl
  | cons c s ih =>
    obtain ⟨hc, hs⟩ := List.forall_mem_cons.mp h
    simp [nameTail, hc, ih hs]

theorem token_of_name (hc : isNameStart c = true) (hs : ∀ c ∈ s, isNamePart c = true) :
    token c s = .ok (.name (String.ofList (c :: s)), s.length) := by
  have hquote : (c == '.') = false ∧ (c == '\'' || c == '"') = false := by
    constructor
    · rw [beq_eq_false_iff_ne]
      rintro rfl
      cases hc
    · rw [Bool.or_eq_false_iff, beq_eq_false_iff_ne, beq_eq_false_iff_ne]
      constructor <;> (rintro rfl; cases hc)
  simp [token, not_isDigit_of_isNameStart hc, hquote.1, hquote.2, hc, nameTail_eq_length hs]

theorem lexFrom_length (position : Nat) (s : List Char) :
    lexFrom position s.length s = .ok [] := by
  induction s generalizing position with
  | nil => rfl
  | cons c s ih => exact ih (position + 1)

/-- A name is the one token of its text. -/
theorem lex_of_name (hc : isNameStart c = true) (hs : ∀ c ∈ s, isNamePart c = true) :
    lex (String.ofList (c :: s)) = .ok [⟨.name (String.ofList (c :: s)), 0, 1 + s.length⟩] := by
  simp [lex, lexFrom, not_isBlank_of_isNameStart hc, token_of_name hc hs, lexFrom_length]

theorem mem_intercalate {α : Type} {sep l : List α} {ls : List (List α)} {a : α} (hl : l ∈ ls)
    (ha : a ∈ l) : a ∈ sep.intercalate ls := by
  induction ls with
  | nil => cases hl
  | cons l' ls ih =>
    cases ls with
    | nil =>
      cases List.mem_singleton.mp hl
      simpa [List.intercalate] using ha
    | cons l'' ls =>
      rw [List.intercalate_cons_cons]
      rcases List.mem_cons.mp hl with rfl | hl
      · exact List.mem_append_left _ (List.mem_append_left _ ha)
      · exact List.mem_append_right _ (ih hl)

/-- What a tree mentions stands among the tokens that write it. -/
theorem Derives.mentions {k : Category} {n : Nat} {ts : List Token} (h : Derives k n ts e)
    (hm : name ∈ e.mentions) : .name name ∈ ts ∧ name ∉ reserved := by
  induction h with
  | plain _ ih | single _ ih | opened _ ih | bare _ ih | base _ ih => exact ih hm
  | number | text | literalTrue | literalFalse => cases hm
  | named n hfree =>
    cases List.mem_singleton.mp hm
    exact ⟨List.mem_cons_self, hfree⟩
  | prefixed _ _ ih =>
    obtain ⟨ht, hr⟩ := ih hm
    exact ⟨List.mem_cons_of_mem _ ht, hr⟩
  | group _ ih =>
    obtain ⟨ht, hr⟩ := ih hm
    exact ⟨List.mem_cons_of_mem _ (List.mem_append_left _ ht), hr⟩
  | binary _ _ _ ihl ihr | raised _ _ ihl ihr =>
    rcases List.mem_append.mp hm with hm | hm
    · obtain ⟨ht, hr⟩ := ihl hm
      exact ⟨List.mem_append_left _ ht, hr⟩
    · obtain ⟨ht, hr⟩ := ihr hm
      exact ⟨List.mem_append_right _ (List.mem_cons_of_mem _ ht), hr⟩
  | conditional _ _ _ ihc iht ihe =>
    simp only [Expr.mentions, List.mem_append] at hm
    rcases hm with (hm | hm) | hm
    · obtain ⟨ht, hr⟩ := ihc hm
      exact ⟨List.mem_append_left _ ht, hr⟩
    · obtain ⟨ht, hr⟩ := iht hm
      exact ⟨List.mem_append_right _ (List.mem_cons_of_mem _ (List.mem_append_left _ ht)), hr⟩
    · obtain ⟨ht, hr⟩ := ihe hm
      exact ⟨List.mem_append_right _ (List.mem_cons_of_mem _ (List.mem_append_right _
        (List.mem_cons_of_mem _ ht))), hr⟩
  | @call _ _ _ args _ _ _ ih =>
    obtain ⟨a, ha, hm⟩ := mem_mentionsAll.mp hm
    obtain ⟨arg, harg, rfl⟩ := List.mem_map.mp ha
    obtain ⟨ht, hr⟩ := ih arg harg hm
    have hpart : .name name ∈ [Token.symbol .comma].intercalate (args.map (·.1)) :=
      mem_intercalate (List.mem_map_of_mem harg) ht
    exact ⟨List.mem_cons_of_mem _ (List.mem_cons_of_mem _ (List.mem_append_left _ hpart)), hr⟩

theorem isVariable_of_mentions {source : String} (h : parse source = .ok e)
    (hm : name ∈ e.mentions) : IsVariable name := by
  obtain ⟨lexemes, hlex, hd⟩ := parse_iff_derives.mp h
  obtain ⟨ht, hfree⟩ := hd.mentions hm
  obtain ⟨l, hl, htoken⟩ := List.mem_map.mp ht
  exact ⟨hfree, lexFrom_starts hlex l hl htoken⟩

theorem chars_of_isIdentifier (h : Field.isIdentifier name = true) : ∃ c s,
    name = String.ofList (c :: s) ∧ (isNameStart c = true ↔ Text.isDigit c = false) ∧
      ∀ c ∈ s, isNamePart c = true := by
  obtain ⟨hne, hall⟩ := Bool.and_eq_true_iff.mp h
  have hparts (c : Char) (hc : c ∈ name.toList) :=
    isNamePart_of_identifier (List.all_eq_true.mp hall c hc)
  cases hs : name.toList with
  | nil => simp [String.toList_eq_nil_iff.mp hs] at hne
  | cons c s =>
    rw [hs] at hparts
    refine ⟨c, s, ?_, (hparts c List.mem_cons_self).2, fun c hc => ?_⟩
    · rw [← hs, String.ofList_toList]
    · exact (hparts c (List.mem_cons_of_mem _ hc)).1

/-- A field name that can stand for a value is read as itself. -/
theorem parse_of_isVariable (h : Field.isIdentifier name = true) (hv : IsVariable name) :
    parse name = .ok (.variable name) := by
  obtain ⟨c, s, rfl, -, hs⟩ := chars_of_isIdentifier h
  have hc : isNameStart c = true := hv.starts c (by simp)
  have hderives : Derives .unary (maxDepth - 1) [.name (String.ofList (c :: s))]
      (.variable (String.ofList (c :: s))) := .bare (.base (.named _ hv.free))
  exact parse_iff_derives.mpr ⟨_, lex_of_name hc hs, .plain (.single (hderives.part .disjunction))⟩

theorem isVariable_iff_of_isIdentifier (h : Field.isIdentifier name = true) :
    IsVariable name ↔ name ∉ reserved ∧ ∀ c ∈ name.toList.head?, Text.isDigit c = false := by
  obtain ⟨c, s, rfl, hc, -⟩ := chars_of_isIdentifier h
  constructor
  · intro hv
    exact ⟨hv.free, by simpa using hc.mp (hv.starts c (by simp))⟩
  · rintro ⟨hfree, hdigit⟩
    exact ⟨hfree, by simpa using hc.mpr (hdigit c (by simp))⟩

/-- The name of a field is read as that very name exactly when it is no reserved word and starts
with no digit, and then it comes to what was captured under it. The other names cannot be mentioned
in any expression. -/
theorem parse_identifier_iff (h : Field.isIdentifier name = true) :
    (parse name = .ok (.variable name) ↔
      name ∉ reserved ∧ ∀ c ∈ name.toList.head?, Text.isDigit c = false) ∧
    (parse name = .ok (.variable name) → ∀ mode env v, Dict.get? env name = some v →
      ∃ e, parse name = .ok e ∧ eval mode env e = .ok (Scalar.ofJson v)) ∧
    ((∃ source e, parse source = .ok e ∧ name ∈ e.variableNames) ↔
      name ∉ reserved ∧ ∀ c ∈ name.toList.head?, Text.isDigit c = false) := by
  rw [← isVariable_iff_of_isIdentifier h]
  have hself : name ∈ (Expr.variable name).mentions := List.mem_singleton.mpr rfl
  refine ⟨⟨fun hp => isVariable_of_mentions hp hself, parse_of_isVariable h⟩, ?_, ?_, ?_⟩
  · intro hp mode env v hv
    exact ⟨_, hp, by simp [eval, hv]⟩
  · rintro ⟨source, e, hp, hm⟩
    exact isVariable_of_mentions hp (mem_variableNames.mp hm)
  · intro hv
    exact ⟨name, _, parse_of_isVariable h hv, mem_variableNames.mpr hself⟩

theorem parse_identifier_iff_length :
    Field.isIdentifier "length_2" = true ∧
      parse "length_2" = .ok (.variable "length_2") := by
  have h : Field.isIdentifier "length_2" = true := by decide
  have hfree : "length_2" ∉ reserved := by decide
  have hletter : ∀ c ∈ "length_2".toList.head?, Text.isDigit c = false := by
    intro c hc
    rw [show "length_2".toList.head? = some 'l' from rfl] at hc
    cases hc
    rfl
  exact ⟨h, (parse_identifier_iff h).1.mpr ⟨hfree, hletter⟩⟩

/-- Names that fields may have and no expression can mention. -/
theorem identifiers_not_read :
    (Field.isIdentifier "not" = true ∧ parse "not" = .error (.malformed 3 .unexpectedEnd)) ∧
    (Field.isIdentifier "true" = true ∧ parse "true" = .ok (.bool true)) ∧
    Field.isIdentifier "2nd" = true ∧ parse "2nd" ≠ .ok (.variable "2nd") := by
  refine ⟨⟨by decide, rfl⟩, ⟨by decide, rfl⟩, by decide, fun h => ?_⟩
  have hv : IsVariable "2nd" := isVariable_of_mentions h (List.mem_singleton.mpr rfl)
  cases hv.starts '2' rfl

end AppDef.Expr
