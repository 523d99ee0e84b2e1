import AppDef.Expr.Lexer
import AppDef.Proofs.Number.Decimal
import AppDef.Proofs.Outcome

namespace AppDef.Expr

open AppDef.Text AppDef.Number

/-- The texts that write a symbol. -/
def Symbol.spellings : Symbol → List String
  | .equal => ["==", "==="]
  | .notEqual => ["!=", "!=="]
  | s => [s.spelling]

/-- How a name goes on. A point is in it only before a character that could start a name. -/
inductive NameEnd : List Char → Prop
  | nil : NameEnd []
  | part {c s} (hc : isNamePart c = true) (h : NameEnd s) : NameEnd (c :: s)
  | point {c s} (hc : isNameStart c = true) (h : NameEnd s) : NameEnd ('.' :: c :: s)

/-- What stands between quotes, and the text it writes. Behind a backslash any character stands for
itself, a line feed or a tab. -/
inductive Quoted (quote : Char) : List Char → List Char → Prop
  | nil : Quoted quote [] []
  | plain {c s text} (hslash : c ≠ '\\') (hquote : c ≠ quote) (h : Quoted quote s text) :
      Quoted quote (c :: s) (c :: text)
  | escaped {c s text} (h : Quoted quote s text) :
      Quoted quote ('\\' :: c :: s) (unescape c :: text)

/-- The two quotes a text may stand in. -/
def IsQuote (c : Char) : Prop :=
  c = '\'' ∨ c = '"'

/-- The characters write the token. -/
inductive Spells : Token → List Char → Prop
  | number {s x} (h : Writes s x) : Spells (.number x) s
  | text {quote s text} (hquote : IsQuote quote) (h : Quoted quote s text) :
      Spells (.text (String.ofList text)) (quote :: (s ++ [quote]))
  | name {c s} (hc : isNameStart c = true) (h : NameEnd s) :
      Spells (.name (String.ofList (c :: s))) (c :: s)
  | symbol {symbol spelling} (h : spelling ∈ symbol.spellings) :
      Spells (.symbol symbol) spelling.toList

variable {c d quote : Char} {s rest text : List Char} {x : Float} {power : Int} {n : Nat}

/-- What is taken for a power behind its letter and its sign is one, or there is none. -/
theorem power_taken {mark : Char} {sign : List Char} {negative : Bool}
    (hmark : mark = 'e' ∨ mark = 'E') (hsign : PowerSign sign negative) (s : List Char) :
    let whole := mark :: (sign ++ s)
    let taken : Int × List Char :=
      if (takeDigits s).1.isEmpty then (0, whole)
      else (powerValue negative (takeDigits s).1, (takeDigits s).2)
    ∃ raised, whole = raised ++ taken.2 ∧ Power raised taken.1 := by
  obtain ⟨digits, rest, htake, rfl, hd, -⟩ := takeDigits_spec s
  simp only [htake, List.isEmpty_iff]
  split
  · exact ⟨[], rfl, .none⟩
  · exact ⟨mark :: (sign ++ digits), by simp, .marked hmark hsign hd ‹_›⟩

theorem powerOfTen_spec (s : List Char) :
    ∃ raised, s = raised ++ (powerOfTen s).2 ∧ Power raised (powerOfTen s).1 := by
  cases s with
  | nil => exact ⟨[], rfl, .none⟩
  | cons c r =>
    simp only [powerOfTen]
    split
    · rename_i hmark
      rw [Bool.or_eq_true, decide_eq_true_eq, decide_eq_true_eq] at hmark
      split
      · exact power_taken hmark .minus _
      · exact power_taken hmark .plus _
      · exact power_taken hmark .none _
    · exact ⟨[], rfl, .none⟩

/-- The digits taken, with the power behind them, write a number. -/
theorem digits_taken {whole pointed fraction : List Char} (hwhole : AllDigits whole)
    (hf : Fraction pointed fraction) (hdigit : whole ++ fraction ≠ [])
    (hs : c :: s = whole ++ (pointed ++ rest)) :
    ∃ t, s = t ++ (powerOfTen rest).2 ∧ Writes (c :: t)
      (ofDecimal false (digitsValue 0 (whole ++ fraction))
        ((powerOfTen rest).1 - fraction.length)) := by
  obtain ⟨raised, hraised, hp⟩ := powerOfTen_spec rest
  have hw := Writes.mk hwhole hf hdigit hp
  obtain ⟨c', t, ht, -⟩ := starts_of_writes hw
  rw [hraised, ← List.append_assoc, ← List.append_assoc, List.append_assoc whole, ht] at hs
  obtain ⟨rfl, rfl⟩ := List.cons.inj hs
  exact ⟨t, rfl, ht ▸ hw⟩

/-- What is taken for a number writes it. -/
theorem numeral_spec (h : Starts c s) :
    ∃ t, s = t ++ (numeral (c :: s)).2 ∧ Writes (c :: t) (numeral (c :: s)).1 := by
  obtain ⟨whole, rest, htake, hs, hwhole, hnext⟩ := takeDigits_spec (c :: s)
  simp only [numeral, htake]
  split
  · rename_i r
    obtain ⟨fraction, rest', htake', rfl, hd, hnext'⟩ := takeDigits_spec r
    simp only [htake']
    refine digits_taken hwhole (.point hd) (fun hnone => ?_) hs
    -- The number starts with its point, and the digit behind it was to be taken.
    obtain ⟨rfl, rfl⟩ := List.append_eq_nil_iff.mp hnone
    obtain ⟨rfl, rfl⟩ := List.cons.inj hs
    obtain h | ⟨-, d, hd, hdigit⟩ := h
    · cases h
    · rw [hnext' d hd] at hdigit
      cases hdigit
  · rename_i hpoint
    refine digits_taken hwhole .none (fun hnone => ?_) hs
    obtain ⟨rfl, -⟩ := List.append_eq_nil_iff.mp hnone
    obtain rfl : c :: s = rest := hs
    obtain h | ⟨rfl, -⟩ := h
    · rw [hnext c rfl] at h
      cases h
    · exact hpoint s rfl

/-- What is taken for a text is closed by its quote. -/
theorem literal?_spec (h : literal? quote s = some (text, n)) :
    n ≤ s.length ∧ ∃ body, s.take n = body ++ [quote] ∧ Quoted quote body text := by
  fun_induction literal? quote s generalizing text n with
  | case1 => cases h
  | case2 => cases h
  | case3 c s ih =>
    obtain ⟨⟨cs, m⟩, hrest, he⟩ := Option.map_eq_some_iff.mp h
    cases he
    obtain ⟨hle, body, htake, hq⟩ := ih hrest
    exact ⟨Nat.add_le_add_right hle 2, '\\' :: c :: body, by simp [htake], .escaped hq⟩
  | case4 s hslash =>
    cases h
    exact ⟨Nat.le_add_left 1 _, [], by simp, .nil⟩
  | case5 c s hend hslash hquote ih =>
    obtain ⟨⟨cs, m⟩, hrest, he⟩ := Option.map_eq_some_iff.mp h
    cases he
    obtain ⟨hle, body, htake, hq⟩ := ih hrest
    have hne : c ≠ '\\' := by
      rintro rfl
      cases s with
      | nil => exact hend rfl rfl
      | cons d s => exact hslash d s rfl rfl
    exact ⟨Nat.succ_le_succ hle, c :: body, by simp [htake], .plain hne hquote hq⟩

theorem literal?_of_quoted (hquote : IsQuote quote) (h : Quoted quote s text) (rest : List Char) :
    literal? quote (s ++ quote :: rest) = some (text, s.length + 1) := by
  have hslash : quote ≠ '\\' := by
    rintro rfl
    rcases hquote with h | h <;> cases h
  induction h with
  | nil => simp [literal?, hslash]
  | plain hc hne h ih => simp [literal?, *]
  | escaped h ih => simp [literal?, ih]

theorem isNamePart_of_isNameStart (h : isNameStart c = true) : isNamePart c = true := by
  simp only [isNameStart, isNamePart, isAlphanumeric, Bool.or_eq_true] at h ⊢
  tauto

theorem NameEnd.tail (h : NameEnd (c :: s)) (hc : isNameStart c = true) : NameEnd s := by
  cases h with
  | part _ h => exact h
  | point => cases hc

/-- What is taken behind the first character of a name goes on with it. -/
theorem nameTail_spec (s : List Char) : nameTail s ≤ s.length ∧ NameEnd (s.take (nameTail s)) := by
  induction s with
  | nil => exact ⟨Nat.le_refl _, .nil⟩
  | cons c s ih =>
    rw [nameTail]
    split
    · rename_i hc
      refine ⟨Nat.succ_le_succ ih.1, ?_⟩
      rw [List.take_succ_cons]
      rcases Bool.or_eq_true_iff.mp hc with hc | hc
      · exact .part hc ih.2
      · obtain ⟨hpoint, hnext⟩ := Bool.and_eq_true_iff.mp hc
        obtain rfl : c = '.' := beq_iff_eq.mp hpoint
        cases s with
        | nil => cases hnext
        | cons d s =>
          have hd : isNameStart d = true := hnext
          have htail : nameTail (d :: s) = nameTail s + 1 := by
            simp [nameTail, isNamePart_of_isNameStart hd]
          have hend := ih.2
          rw [htail, List.take_succ_cons] at hend ⊢
          exact .point hd (hend.tail hd)
    · exact ⟨Nat.zero_le _, .nil⟩

theorem symbol?_spec {symbol : Symbol} (h : symbol? c s = some (symbol, n)) :
    n ≤ s.length ∧ ∃ spelling ∈ symbol.spellings, c :: s.take n = spelling.toList := by
  unfold symbol? at h
  split at h <;> cases h <;> simp [Symbol.spellings, Symbol.spelling]

/-- Where no symbol is read, none is written. -/
theorem spelling_not_prefix {symbol : Symbol} (h : symbol? c s = none) :
    ∀ spelling ∈ symbol.spellings, ∀ rest, spelling.toList ++ rest ≠ c :: s := by
  unfold symbol? at h
  split at h <;> cases h
  cases symbol <;> simp [Symbol.spellings, Symbol.spelling] <;> grind

theorem head?_of_lone_equal (h : symbol? '=' s = none) : s.head? ≠ some '=' := by
  intro hnext
  obtain ⟨rest, rfl⟩ := List.head?_eq_some_iff.mp hnext
  have hequal : "==" ∈ Symbol.equal.spellings := List.mem_cons_self
  exact spelling_not_prefix h "==" hequal rest rfl

theorem starts_iff : (isDigit c || (c == '.' && s.head?.any isDigit)) = true ↔ Starts c s := by
  rw [Starts, Bool.or_eq_true, Bool.and_eq_true, beq_iff_eq, Option.any_eq_true]
  rfl

theorem isQuote_iff : (c == '\'' || c == '"') = true ↔ IsQuote c := by
  rw [IsQuote, Bool.or_eq_true, beq_iff_eq, beq_iff_eq]

/-- Why no token starts at the character, and what is said of it. -/
inductive Obstructs (c : Char) (s : List Char) : SyntaxFault → Prop
  | unterminatedText (hquote : IsQuote c)
      (hopen : ∀ body text rest, Quoted c body text → s ≠ body ++ c :: rest) :
      Obstructs c s .unterminatedText
  | assignment (hc : c = '=') (hlone : s.head? ≠ some '=') : Obstructs c s .assignment
  | strayCharacter (hquote : ¬ IsQuote c) (hc : c ≠ '=')
      (hnone : ∀ t spelling rest, Spells t spelling → c :: s ≠ spelling ++ rest) :
      Obstructs c s (.strayCharacter c)

/-- A token is read wherever one is written that is no text. -/
theorem not_spelled {t : Token} {spelling : List Char} (hstart : ¬ Starts c s)
    (hquote : ¬ IsQuote c) (hname : ¬ isNameStart c = true) (hsymbol : symbol? c s = none)
    (h : Spells t spelling) : c :: s ≠ spelling ++ rest := by
  rintro hs
  cases h with
  | number h =>
    obtain ⟨d, r, rfl, hd⟩ := starts_of_writes h
    obtain ⟨rfl, rfl⟩ := List.cons.inj hs
    exact hstart (hd.append rest)
  | text hq =>
    obtain ⟨rfl, -⟩ := List.cons.inj hs
    exact hquote hq
  | name hc =>
    obtain ⟨rfl, -⟩ := List.cons.inj hs
    exact hname hc
  | symbol h => exact spelling_not_prefix hsymbol _ h rest hs.symm

/-- What is taken for a token writes it, and a fault is found only where no token starts. -/
theorem token_ends (c : Char) (s : List Char) :
    Ends (token c s) (fun taken => taken.2 ≤ s.length ∧ Spells taken.1 (c :: s.take taken.2))
      (Obstructs c s) := by
  unfold token
  split
  · rename_i hc
    obtain ⟨r, hs, hw⟩ := numeral_spec (starts_iff.mp hc)
    generalize numeral (c :: s) = number at hs hw
    obtain ⟨x, rest⟩ := number
    obtain rfl : s = r ++ rest := hs
    have hlength : (r ++ rest).length - rest.length = r.length := by simp
    rw [ends_ok, hlength, List.take_left]
    exact ⟨by simp, .number hw⟩
  · rename_i hstart
    rw [starts_iff] at hstart
    split
    · rename_i hquote
      rw [isQuote_iff] at hquote
      split
      · rename_i text n htext
        obtain ⟨hle, body, htake, hq⟩ := literal?_spec htext
        exact ⟨hle, htake ▸ .text hquote hq⟩
      · rename_i hnone
        refine .unterminatedText hquote fun body text rest hq hs => ?_
        rw [hs, literal?_of_quoted hquote hq] at hnone
        cases hnone
    · rename_i hquote
      rw [isQuote_iff] at hquote
      split
      · rename_i hname
        exact ⟨(nameTail_spec s).1, .name hname (nameTail_spec s).2⟩
      · rename_i hname
        split
        · rename_i symbol n hsymbol
          obtain ⟨hle, spelling, hspelling, he⟩ := symbol?_spec hsymbol
          exact ⟨hle, he ▸ .symbol hspelling⟩
        · rename_i hsymbol
          rw [ends_error]
          split
          · rename_i hc
            subst hc
            exact .assignment rfl (head?_of_lone_equal hsymbol)
          · rename_i hc
            exact .strayCharacter hquote hc fun t spelling rest =>
              not_spelled hstart hquote hname hsymbol

end AppDef.Expr
