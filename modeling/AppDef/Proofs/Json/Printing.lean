import AppDef.Json.Print
import AppDef.Proofs.Json.WellFormed

namespace AppDef

namespace Members

variable {α : Type}

theorem insert_last {key : String} {value : α} {members : List (String × α)}
    (h : key ∉ members.map (·.1)) : insert key value members = members ++ [(key, value)] := by
  induction members with
  | nil => rfl
  | cons m members ih =>
    obtain ⟨hne, htail⟩ := not_or.mp (mt List.mem_cons.mpr h)
    rw [insert, if_neg (Ne.symm hne), ih htail]
    rfl

/-- Members with different names stay as they are. -/
theorem ofList_of_distinct {members : List (String × α)} (h : Distinct members) :
    ofList members = members := by
  have hfold (members acc : List (String × α)) (h : Distinct (acc ++ members)) :
      members.foldl (fun acc m => insert m.1 m.2 acc) acc = acc ++ members := by
    induction members generalizing acc with
    | nil => simp
    | cons m members ih =>
      have hfresh : m.1 ∉ acc.map (·.1) := by
        intro hm
        rw [Distinct, List.map_append, List.map_cons] at h
        exact (List.nodup_append.mp h).2.2 _ hm _ List.mem_cons_self rfl
      rw [List.foldl_cons, insert_last hfresh, ih _ (by simpa using h), List.append_assoc]
      rfl
  exact hfold members [] h

end Members

namespace Json

namespace Read

theorem hexValue?_hexDigit : ∀ n < 16, Text.hexValue? (hexDigit n) = some n := by
  decide

theorem hexQuad_control {n : Nat} (hn : n < 32) (s : List Char) :
    hexQuad ('0' :: '0' :: hexDigit (n / 16) :: hexDigit (n % 16) :: s) = .ok (n, s) := by
  have hzero : Text.hexValue? '0' = some 0 := by decide
  have hvalue : ((0 * 16 + 0) * 16 + n / 16) * 16 + n % 16 = n := by omega
  simp only [hexQuad, hzero, hexValue?_hexDigit (n / 16) (by omega),
    hexValue?_hexDigit (n % 16) (Nat.mod_lt n (by decide)), hvalue]

theorem unicodeEscape_control {c : Char} (hc : c.toNat < 32) (s : List Char) :
    unicodeEscape ('0' :: '0' :: hexDigit (c.toNat / 16) :: hexDigit (c.toNat % 16) :: s) =
      .ok (c, s) := by
  have hlow : isLowSurrogate c.toNat = false := by simp [isLowSurrogate]; omega
  have hhigh : isHighSurrogate c.toNat = false := by simp [isHighSurrogate]; omega
  simp [unicodeEscape, hexQuad_control hc, hlow, hhigh, Char.ofNat_toNat]

/-- What an escape stands for is the next character of the text. -/
theorem quotedChars_escape {fuel : Nat} {s s' : List Char} {c : Char}
    (h : escape s = .ok (c, s')) :
    quotedChars (fuel + 1) ('\\' :: s) =
      (quotedChars fuel s').map fun r => (c :: r.1, r.2) := by
  simp only [quotedChars, h]
  rfl

/-- A character that was escaped is read back. -/
theorem quotedChars_escaped (fuel : Nat) (c : Char) (s : List Char) :
    quotedChars (fuel + 1) (escaped c ++ s) =
      (quotedChars fuel s).map fun r => (c :: r.1, r.2) := by
  have hcode (n : Nat) (hn : c.toNat = n) : c = Char.ofNat n := by rw [← hn, Char.ofNat_toNat]
  unfold escaped
  split_ifs with hquote hbackslash hline hreturn htab hback hfeed hcontrol
  · subst hquote
    exact quotedChars_escape rfl
  · subst hbackslash
    exact quotedChars_escape rfl
  · subst hline
    exact quotedChars_escape rfl
  · subst hreturn
    exact quotedChars_escape rfl
  · subst htab
    exact quotedChars_escape rfl
  · rw [hcode 8 hback]
    exact quotedChars_escape rfl
  · rw [hcode 12 hfeed]
    exact quotedChars_escape rfl
  · exact quotedChars_escape (unicodeEscape_control hcontrol s)
  · simp only [List.singleton_append, quotedChars, hquote, hbackslash, hcontrol, ↓reduceIte]
    rfl

theorem quotedChars_flatMap {cs : List Char} {fuel : Nat} (h : cs.length < fuel)
    (rest : List Char) :
    quotedChars fuel (cs.flatMap escaped ++ '"' :: rest) = .ok (cs, rest) := by
  induction cs generalizing fuel with
  | nil =>
    obtain ⟨fuel, rfl⟩ := Nat.exists_eq_add_of_lt h
    rfl
  | cons c cs ih =>
    obtain ⟨fuel, rfl⟩ : ∃ n, fuel = n + 1 := ⟨fuel - 1, by omega⟩
    rw [List.flatMap_cons, List.append_assoc, quotedChars_escaped, ih (Nat.lt_of_succ_lt_succ h)]
    rfl

theorem length_le_flatMap_escaped (cs : List Char) : cs.length ≤ (cs.flatMap escaped).length := by
  induction cs with
  | nil => exact Nat.le_refl 0
  | cons c cs ih =>
    have hc : 1 ≤ (escaped c).length := by
      unfold escaped
      split_ifs <;> simp
    simp only [List.flatMap_cons, List.length_append, List.length_cons]
    omega

theorem quotedText_flatMap (s : String) (rest : List Char) :
    quotedText (s.toList.flatMap escaped ++ '"' :: rest) = .ok (s, rest) := by
  have hlength := length_le_flatMap_escaped s.toList
  have hchars : quotedChars ((s.toList.flatMap escaped ++ '"' :: rest).length + 1)
      (s.toList.flatMap escaped ++ '"' :: rest) = .ok (s.toList, rest) := by
    refine quotedChars_flatMap ?_ rest
    simp only [List.length_append, List.length_cons]
    omega
  simp only [quotedText, hchars, except_ok_bind, except_pure, String.ofList_toList]

end Read

/-- Brackets within the value nest at most so deep, no number stands in it, and no object names a
member twice. -/
inductive Plain : (depth : Nat) → Json → Prop
  | null {depth} : Plain depth .null
  | bool {depth} (b) : Plain depth (.bool b)
  | text {depth} (s) : Plain depth (.text s)
  | array {depth items} : (∀ v ∈ items, Plain depth v) → Plain (depth + 1) (.array items)
  | object {depth members} : Members.Distinct members → (∀ m ∈ members, Plain depth m.2) →
      Plain (depth + 1) (.object members)

variable {v : Json} {vs : List Json} {ms : List (String × Json)} {key : String}
  {depth fuel : Nat} {rest : List Char}

theorem toList_quoted (s : String) :
    (quoted s).toList = '"' :: (s.toList.flatMap escaped ++ ['"']) := by
  simp [quoted]

theorem toList_print_array : (print (.array (v :: vs))).toList =
    '[' :: (v.print.toList ++ ((printItems vs).toList ++ [']'])) := by
  simp [print]

theorem toList_print_object : (print (.object ((key, v) :: ms))).toList =
    '\x7b' :: '"' :: (key.toList.flatMap escaped ++
      '"' :: ':' :: (v.print.toList ++ ((printMembers ms).toList ++ ['\x7d']))) := by
  simp [print, toList_quoted]

theorem toList_printItems : (printItems (v :: vs)).toList =
    ',' :: (v.print.toList ++ (printItems vs).toList) := by
  simp [printItems]

theorem toList_printMembers : (printMembers ((key, v) :: ms)).toList =
    ',' :: '"' :: (key.toList.flatMap escaped ++
      '"' :: ':' :: (v.print.toList ++ (printMembers ms).toList)) := by
  simp [printMembers, toList_quoted]

/-- The text of a value begins with it and does not close a list. -/
theorem Plain.print_head (h : Plain depth v) :
    ∃ c cs, v.print.toList = c :: cs ∧ isSpace c = false ∧ c ≠ ']' := by
  cases h with
  | null => exact ⟨'n', _, rfl, rfl, by decide⟩
  | bool b => cases b <;> exact ⟨_, _, rfl, rfl, by decide⟩
  | text s => exact ⟨'"', _, toList_quoted s, rfl, by decide⟩
  | @array depth items _ =>
    cases items with
    | nil => exact ⟨'[', _, rfl, rfl, by decide⟩
    | cons v vs => exact ⟨'[', _, toList_print_array, rfl, by decide⟩
  | @object depth members _ _ =>
    cases members with
    | nil => exact ⟨'\x7b', _, rfl, rfl, by decide⟩
    | cons m ms => exact ⟨'\x7b', _, toList_print_object, rfl, by decide⟩

theorem Plain.fuel_of_print (h : Plain depth v) (hfuel : 2 * v.print.toList.length ≤ fuel) :
    ∃ n, fuel = n + 2 := by
  obtain ⟨c, cs, hc, _, _⟩ := h.print_head
  rw [hc, List.length_cons] at hfuel
  exact ⟨fuel - 2, by omega⟩

namespace Read

theorem skipSpace_of_head {c : Char} (hc : isSpace c = false) (s : List Char) :
    skipSpace (c :: s) = c :: s := by
  simp [skipSpace, hc]

theorem nextItem_first {c : Char} (hc : isSpace c = false) (hclose : c ≠ ']') (s : List Char) :
    nextItem true (c :: s) = .ok (.item (c :: s)) := by
  simp only [nextItem, skipSpace_of_head hc]
  split <;> simp_all

theorem nextItem_comma {c : Char} (hc : isSpace c = false) (hclose : c ≠ ']') (s : List Char) :
    nextItem false (',' :: c :: s) = .ok (.item (c :: s)) := by
  simp only [nextItem, skipSpace_of_head hc, skipSpace_of_head (show isSpace ',' = false from rfl)]
  simp_all

/-- With enough fuel the value is read from its text, whatever stands behind it. -/
def Rereads (depth : Nat) (v : Json) : Prop :=
  ∀ fuel rest, 2 * v.print.toList.length ≤ fuel →
    value fuel depth (v.print.toList ++ rest) = .ok (v, rest)

theorem items_printItems (hv : ∀ v ∈ vs, Rereads depth v ∧ ∃ n, v.Plain n)
    (hfuel : 2 * (printItems vs).toList.length + 1 ≤ fuel) (rest : List Char) :
    items fuel depth false ((printItems vs).toList ++ ']' :: rest) = .ok (vs, ']' :: rest) := by
  induction vs generalizing fuel with
  | nil =>
    obtain ⟨fuel, rfl⟩ := Nat.exists_eq_add_of_lt hfuel
    rfl
  | cons v vs ih =>
    obtain ⟨⟨hread, n, hplain⟩, htail⟩ := List.forall_mem_cons.mp hv
    obtain ⟨fuel, rfl⟩ : ∃ n, fuel = n + 1 := ⟨fuel - 1, by omega⟩
    rw [toList_printItems] at hfuel
    simp only [List.length_cons, List.length_append] at hfuel
    obtain ⟨c, cs, hc, hspace, hclose⟩ := hplain.print_head
    have hnext : nextItem false
        (',' :: (v.print.toList ++ ((printItems vs).toList ++ ']' :: rest))) =
          .ok (.item (v.print.toList ++ ((printItems vs).toList ++ ']' :: rest))) := by
      rw [hc]
      exact nextItem_comma hspace hclose _
    have hitems : items fuel depth false ((printItems vs).toList ++ ']' :: rest) =
        .ok (vs, ']' :: rest) := ih htail (by omega)
    rw [toList_printItems, List.cons_append, List.append_assoc]
    simp only [items, hnext, except_ok_bind, hread fuel _ (by omega), hitems, except_pure]

theorem members_printMembers (hv : ∀ m ∈ ms, Rereads depth m.2)
    (hfuel : 2 * (printMembers ms).toList.length + 1 ≤ fuel) (rest : List Char) :
    members fuel depth false ((printMembers ms).toList ++ '\x7d' :: rest) =
      .ok (ms, '\x7d' :: rest) := by
  induction ms generalizing fuel with
  | nil =>
    obtain ⟨fuel, rfl⟩ := Nat.exists_eq_add_of_lt hfuel
    rfl
  | cons m ms ih =>
    obtain ⟨key, v⟩ := m
    obtain ⟨hread, htail⟩ := List.forall_mem_cons.mp hv
    change Rereads depth v at hread
    obtain ⟨fuel, rfl⟩ : ∃ n, fuel = n + 1 := ⟨fuel - 1, by omega⟩
    rw [toList_printMembers] at hfuel ⊢
    simp only [List.length_cons, List.length_append] at hfuel
    have hnext (s : List Char) : nextMember false (',' :: '"' :: s) = .ok (.item s) := rfl
    have hcolon (s : List Char) : colon (':' :: s) = .ok s := rfl
    have hmembers : members fuel depth false ((printMembers ms).toList ++ '\x7d' :: rest) =
        .ok (ms, '\x7d' :: rest) := ih htail (by omega)
    simp only [List.cons_append, List.append_assoc, members, hnext, except_ok_bind,
      quotedText_flatMap, hcolon, hread fuel _ (by omega), hmembers, except_pure]

theorem rereads_array (hv : ∀ v ∈ vs, Rereads depth v ∧ ∃ n, v.Plain n) (hdepth : 0 < depth) :
    Rereads (depth + 1) (.array vs) := by
  intro fuel rest hfuel
  have hnot : ¬ depth + 1 ≤ 1 := by omega
  have hclose (s : List Char) : closeList (']' :: s) = .ok s := rfl
  cases vs with
  | nil =>
    obtain ⟨fuel, rfl⟩ : ∃ n, fuel = n + 2 := ⟨fuel - 2, by simp [print] at hfuel; omega⟩
    have hitems : items (fuel + 1) depth true (']' :: rest) = .ok ([], ']' :: rest) := rfl
    change value (fuel + 2) (depth + 1) ('[' :: ']' :: rest) = _
    simp only [value, skipSpace_of_head (show isSpace '[' = false from rfl), hnot, ↓reduceIte,
      Nat.add_sub_cancel, hitems, except_ok_bind, hclose, except_pure]
  | cons v vs =>
    obtain ⟨⟨hread, n, hplain⟩, htail⟩ := List.forall_mem_cons.mp hv
    obtain ⟨c, cs, hc, hspace, hbracket⟩ := hplain.print_head
    rw [toList_print_array] at hfuel ⊢
    simp only [List.length_cons, List.length_append] at hfuel
    obtain ⟨fuel, rfl⟩ : ∃ n, fuel = n + 2 := ⟨fuel - 2, by omega⟩
    have hnext : nextItem true
        (v.print.toList ++ ((printItems vs).toList ++ ']' :: rest)) =
          .ok (.item (v.print.toList ++ ((printItems vs).toList ++ ']' :: rest))) := by
      rw [hc]
      exact nextItem_first hspace hbracket _
    simp only [List.cons_append, List.append_assoc, List.nil_append, value,
      skipSpace_of_head (show isSpace '[' = false from rfl), hnot, ↓reduceIte,
      Nat.add_sub_cancel, items, hnext, except_ok_bind, hread fuel _ (by omega),
      items_printItems htail (by omega : _ ≤ fuel), except_pure, hclose]

theorem rereads_object (hdistinct : Members.Distinct ms) (hv : ∀ m ∈ ms, Rereads depth m.2)
    (hdepth : 0 < depth) : Rereads (depth + 1) (.object ms) := by
  intro fuel rest hfuel
  have hnot : ¬ depth + 1 ≤ 1 := by omega
  have hclose (s : List Char) : closeObject ('\x7d' :: s) = .ok s := rfl
  cases ms with
  | nil =>
    obtain ⟨fuel, rfl⟩ : ∃ n, fuel = n + 2 := ⟨fuel - 2, by simp [print] at hfuel; omega⟩
    have hmembers : members (fuel + 1) depth true ('\x7d' :: rest) = .ok ([], '\x7d' :: rest) := rfl
    change value (fuel + 2) (depth + 1) ('\x7b' :: '\x7d' :: rest) = _
    simp only [value, skipSpace_of_head (show isSpace '\x7b' = false from rfl), hnot, ↓reduceIte,
      Nat.add_sub_cancel, hmembers, except_ok_bind, hclose, except_pure]
    rfl
  | cons m ms =>
    obtain ⟨key, v⟩ := m
    obtain ⟨hread, htail⟩ := List.forall_mem_cons.mp hv
    change Rereads depth v at hread
    rw [toList_print_object] at hfuel ⊢
    simp only [List.length_cons, List.length_append] at hfuel
    obtain ⟨fuel, rfl⟩ : ∃ n, fuel = n + 2 := ⟨fuel - 2, by omega⟩
    have hnext (s : List Char) : nextMember true ('"' :: s) = .ok (.item s) := rfl
    have hcolon (s : List Char) : colon (':' :: s) = .ok s := rfl
    simp only [List.cons_append, List.append_assoc, List.nil_append, value,
      skipSpace_of_head (show isSpace '\x7b' = false from rfl), hnot, ↓reduceIte,
      Nat.add_sub_cancel, members, hnext, quotedText_flatMap, hcolon, except_ok_bind,
      hread fuel _ (by omega), members_printMembers htail (by omega : _ ≤ fuel), except_pure,
      hclose, Members.ofList_of_distinct hdistinct]

theorem rereads_of_plain {n : Nat} (h : v.Plain n) (hdepth : n < depth) : Rereads depth v := by
  induction h generalizing depth with
  | @null n =>
    intro fuel rest hfuel
    obtain ⟨fuel, rfl⟩ := (Plain.null : Plain n .null).fuel_of_print hfuel
    rfl
  | @bool n b =>
    intro fuel rest hfuel
    obtain ⟨fuel, rfl⟩ := (Plain.bool b : Plain n (.bool b)).fuel_of_print hfuel
    cases b <;> rfl
  | @text n s =>
    intro fuel rest hfuel
    obtain ⟨fuel, rfl⟩ := (Plain.text s : Plain n (.text s)).fuel_of_print hfuel
    change value (fuel + 2) depth ((quoted s).toList ++ rest) = _
    rw [toList_quoted]
    simp only [List.cons_append, List.append_assoc, List.nil_append, value,
      skipSpace_of_head (show isSpace '"' = false from rfl), quotedText_flatMap, except_ok_map]
  | array hitems ih =>
    obtain ⟨depth, rfl⟩ : ∃ n, depth = n + 1 := ⟨depth - 1, by omega⟩
    exact rereads_array (fun v hv => ⟨ih v hv (by omega), _, hitems v hv⟩) (by omega)
  | object hdistinct _ ih =>
    obtain ⟨depth, rfl⟩ : ∃ n, depth = n + 1 := ⟨depth - 1, by omega⟩
    exact rereads_object hdistinct (fun m hm => ih m hm (by omega)) (by omega)

end Read

/-- A text that was printed is read as what it was printed from. -/
theorem read_print {n : Nat} (h : v.Plain n) (hn : n < Read.depthLimit) : read v.print = .ok v := by
  have hvalue := Read.rereads_of_plain h hn (Read.enough v.print.toList) [] (by
    simp only [Read.enough]
    omega)
  rw [List.append_nil] at hvalue
  simp only [read, parse, hvalue, except_ok_bind]
  rfl

end Json

end AppDef
