import AppDef.Proofs.Expr.Refusal
import AppDef.Proofs.Expr.Spelling

namespace AppDef.Expr

open AppDef.Text AppDef.Number

/-- The lexeme takes the character at the position. -/
def Lexeme.Takes (l : Lexeme) (position : Nat) : Prop :=
  l.start ≤ position ∧ position < l.start + l.width

/-- The lexemes cover the text from one position to another. -/
structure Tiles (text : List Char) (start finish : Nat) (ls : List Lexeme) : Prop where
  start_le : start ≤ finish
  finish_le : finish ≤ text.length
  ordered : ls.Pairwise fun l l' => l.start + l.width ≤ l'.start
  spelled : ∀ l ∈ ls, start ≤ l.start ∧ 0 < l.width ∧ l.start + l.width ≤ finish ∧
    Spells l.token ((text.drop l.start).take l.width)
  blank : ∀ i c, start ≤ i → i < finish → text[i]? = some c → (∀ l ∈ ls, ¬ l.Takes i) →
    isBlank c = true

/-- The text is covered up to a character at which no token starts. -/
inductive Blocked (text : List Char) (start : Nat) : ExprError → Prop
  | mk {before c rest fault ls} (htext : text = before ++ c :: rest)
      (htiles : Tiles text start before.length ls) (hblank : isBlank c = false)
      (h : Obstructs c rest fault) : Blocked text start (.malformed before.length fault)

variable {text before s : List Char} {c : Char} {l : Lexeme} {ls : List Lexeme}
  {start finish position taken : Nat} {e : ExprError}

theorem Tiles.nil (h : finish ≤ text.length) : Tiles text finish finish [] where
  start_le := Nat.le_refl _
  finish_le := h
  ordered := .nil
  spelled _ hl := absurd hl List.not_mem_nil
  blank _ _ hstart hfinish _ _ := absurd hfinish (Nat.not_lt.mpr hstart)

theorem Tiles.skip (h : Tiles text (start + 1) finish ls) (hc : text[start]? = some c)
    (hblank : isBlank c = true) : Tiles text start finish ls where
  start_le := Nat.le_of_succ_le h.start_le
  finish_le := h.finish_le
  ordered := h.ordered
  spelled l hl := by
    obtain ⟨hstart, hrest⟩ := h.spelled l hl
    exact ⟨Nat.le_of_succ_le hstart, hrest⟩
  blank i d hstart hfinish hd hfree := by
    rcases Nat.eq_or_lt_of_le hstart with rfl | hlt
    · obtain rfl : c = d := Option.some.inj (hc.symm.trans hd)
      exact hblank
    · exact h.blank i d hlt hfinish hd hfree

theorem Tiles.cons (h : Tiles text (l.start + l.width) finish ls) (hwidth : 0 < l.width)
    (hspell : Spells l.token ((text.drop l.start).take l.width)) :
    Tiles text l.start finish (l :: ls) where
  start_le := Nat.le_trans (Nat.le_add_right _ _) h.start_le
  finish_le := h.finish_le
  ordered := List.pairwise_cons.mpr ⟨fun l' hl' => (h.spelled l' hl').1, h.ordered⟩
  spelled := by
    refine List.forall_mem_cons.mpr ⟨⟨Nat.le_refl _, hwidth, h.start_le, hspell⟩, fun l' hl' => ?_⟩
    obtain ⟨hstart, hrest⟩ := h.spelled l' hl'
    exact ⟨Nat.le_trans (Nat.le_add_right _ _) hstart, hrest⟩
  blank i d hstart hfinish hd hfree := by
    obtain ⟨hl, hls⟩ := List.forall_mem_cons.mp hfree
    have hbehind : l.start + l.width ≤ i := Nat.not_lt.mp fun hlt => hl ⟨hstart, hlt⟩
    exact h.blank i d hbehind hfinish hd hls

theorem Blocked.skip (h : Blocked text (start + 1) e) (hc : text[start]? = some c)
    (hblank : isBlank c = true) : Blocked text start e := by
  obtain ⟨htext, htiles, hfirst, h⟩ := h
  exact ⟨htext, htiles.skip hc hblank, hfirst, h⟩

theorem Blocked.cons (h : Blocked text (l.start + l.width) e) (hwidth : 0 < l.width)
    (hspell : Spells l.token ((text.drop l.start).take l.width)) : Blocked text l.start e := by
  obtain ⟨htext, htiles, hfirst, h⟩ := h
  exact ⟨htext, htiles.cons hwidth hspell, hfirst, h⟩

/-- Behind what was taken already, the text is covered to its end or to where it cannot be read. -/
theorem lexFrom_covers (before : List Char) (h : taken ≤ s.length) :
    Ends (lexFrom before.length taken s)
      (Tiles (before ++ s) (before.length + taken) (before ++ s).length)
      (Blocked (before ++ s) (before.length + taken)) := by
  -- The induction moves the characters that were read to `before`, so that positions in the text
  -- stay what they are.
  induction s generalizing before taken with
  | nil =>
    obtain rfl : taken = 0 := Nat.le_zero.mp h
    rw [List.append_nil]
    exact Tiles.nil (Nat.le_refl _)
  | cons c s ih =>
    have hnext {taken : Nat} (h : taken ≤ s.length) :
        Ends (lexFrom (before.length + 1) taken s)
          (Tiles (before ++ c :: s) (before.length + 1 + taken) (before ++ c :: s).length)
          (Blocked (before ++ c :: s) (before.length + 1 + taken)) := by
      simpa using ih (before ++ [c]) h
    cases taken with
    | succ taken =>
      have hbehind := hnext (Nat.le_of_succ_le_succ h)
      rwa [Nat.add_right_comm] at hbehind
    | zero =>
      have hc : (before ++ c :: s)[before.length]? = some c := by simp
      unfold lexFrom
      split
      · rename_i hblank
        exact (hnext (Nat.zero_le _)).mono (fun _ h => h.skip hc hblank) fun _ h => h.skip hc hblank
      · rename_i hblank
        have hends := token_ends c s
        split
        · rename_i fault hfault
          rw [hfault] at hends
          have htiles : Tiles (before ++ c :: s) before.length before.length [] := .nil (by simp)
          exact ⟨rfl, htiles, Bool.not_eq_true _ ▸ hblank, hends⟩
        · rename_i token more htoken
          rw [htoken] at hends
          obtain ⟨hmore, hspell⟩ := hends
          have hbehind := hnext hmore
          rw [Nat.add_assoc] at hbehind
          have hwidth : 0 < 1 + more := Nat.add_pos_left Nat.one_pos more
          have htaken : Spells token (((before ++ c :: s).drop before.length).take (1 + more)) := by
            rw [List.drop_left, Nat.add_comm]
            exact hspell
          refine hbehind.map (fun _ h => ?_) fun _ h => ?_
          · exact h.cons (l := ⟨token, before.length, 1 + more⟩) hwidth htaken
          · exact h.cons (l := ⟨token, before.length, 1 + more⟩) hwidth htaken

/-- Where a number starts it is read, whatever follows, and its text is one that can be read. -/
theorem number_read {c : Char} {s : List Char} (h : Starts c s) :
    ∃ x n, token c s = .ok (.number x, n) ∧ n ≤ s.length ∧
      Writes (smallMarks (c :: s.take n)) x ∧
      read? (String.ofList (smallMarks (c :: s.take n))) = some x := by
  have htoken : ∃ x n, token c s = .ok (.number x, n) := by
    rw [token, if_pos (starts_iff.mpr h)]
    exact ⟨_, _, rfl⟩
  obtain ⟨x, n, htoken⟩ := htoken
  have hends := token_ends c s
  rw [htoken] at hends
  obtain ⟨hn, hspell⟩ := hends
  cases hspell with
  | number hw => exact ⟨x, n, htoken, hn, hw.smallMarks, read?_of_writes hw.smallMarks⟩

/-- The tokens of a text cover it, each in characters of its own and only blanks between them. A
text is refused only for a character at which no token starts, all before it being covered; where a
number starts, one is read. And whatever is malformed is found at a position of the text. -/
theorem lexemes_cover (source : String) :
    (∀ ls, lex source = .ok ls → Tiles source.toList 0 source.toList.length ls) ∧
    (∀ e, lex source = .error e → Blocked source.toList 0 e) ∧
    (∀ c s, Starts c s → ∃ x n, token c s = .ok (.number x, n) ∧ n ≤ s.length ∧
      Writes (smallMarks (c :: s.take n)) x ∧
      read? (String.ofList (smallMarks (c :: s.take n))) = some x) ∧
    ∀ position fault, parse source = .error (.malformed position fault) →
      position ≤ source.toList.length := by
  have hcovers : Ends (lex source) (Tiles source.toList 0 source.toList.length)
      (Blocked source.toList 0) := lexFrom_covers [] (Nat.zero_le _)
  refine ⟨fun ls h => ?_, fun e h => ?_, fun c s h => number_read h, fun position fault h => ?_⟩
  · rwa [h] at hcovers
  · rwa [h] at hcovers
  · cases refuses_of_parse_error h with
    | malformed _ hp => exact hp

theorem lexemes_cover_escaped :
    (lex "n.x !== 'it\\'s'" =
        .ok [⟨.name "n.x", 0, 3⟩, ⟨.symbol .notEqual, 4, 3⟩, ⟨.text "it's", 8, 7⟩] ∧
      Tiles "n.x !== 'it\\'s'".toList 0 15
        [⟨.name "n.x", 0, 3⟩, ⟨.symbol .notEqual, 4, 3⟩, ⟨.text "it's", 8, 7⟩]) ∧
    (lex "a = 1" = .error (.malformed 2 .assignment) ∧
      Blocked "a = 1".toList 0 (.malformed 2 .assignment)) ∧
    (Starts '.' "5E1e+".toList ∧ ∃ x n, token '.' "5E1e+".toList = .ok (.number x, n) ∧
      read? (String.ofList (smallMarks ('.' :: "5E1e+".toList.take n))) = some x) ∧
    parse "1 + " = .error (.malformed 4 .unexpectedEnd) ∧ 4 ≤ "1 + ".toList.length := by
  have hok : lex "n.x !== 'it\\'s'" =
      .ok [⟨.name "n.x", 0, 3⟩, ⟨.symbol .notEqual, 4, 3⟩, ⟨.text "it's", 8, 7⟩] := rfl
  have hlone : lex "a = 1" = .error (.malformed 2 .assignment) := rfl
  have hstart : Starts '.' "5E1e+".toList := .inr ⟨rfl, '5', rfl, rfl⟩
  have hend : parse "1 + " = .error (.malformed 4 .unexpectedEnd) := rfl
  obtain ⟨x, n, htoken, -, -, hread⟩ := (lexemes_cover ".5E1e+").2.2.1 _ _ hstart
  exact ⟨⟨hok, (lexemes_cover "n.x !== 'it\\'s'").1 _ hok⟩,
    ⟨hlone, (lexemes_cover "a = 1").2.1 _ hlone⟩, ⟨hstart, x, n, htoken, hread⟩,
    hend, (lexemes_cover "1 + ").2.2.2 _ _ hend⟩

end AppDef.Expr
