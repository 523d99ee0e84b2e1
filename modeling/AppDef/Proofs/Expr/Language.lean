import AppDef.Proofs.Expr.Completeness

namespace AppDef.Expr

theorem complete_eq_ok_iff {finish : Nat} {read : Expr × List Lexeme} {e : Expr} :
    complete finish read = .ok e ↔ read = (e, []) := by
  obtain ⟨e', rest⟩ := read
  cases rest with
  | nil => simp [complete]
  | cons l rest => simp [complete, refuse]

theorem parse_eq_ok_iff {source : String} {e : Expr} :
    parse source = .ok e ↔ ∃ lexemes, lex source = .ok lexemes ∧
      expressionIn source.toList.length maxDepth lexemes = .ok (e, []) := by
  simp only [parse, except_bind_eq_ok]
  constructor
  · rintro ⟨lexemes, hl, h⟩
    refine ⟨lexemes, hl, ?_⟩
    split at h
    · cases h
    · obtain ⟨read, hr, hc⟩ := except_bind_eq_ok.mp h
      rw [hr, complete_eq_ok_iff.mp hc]
  · rintro ⟨lexemes, hl, h⟩
    refine ⟨lexemes, hl, ?_⟩
    cases lexemes with
    | nil => cases h
    | cons l lexemes => simp [h, complete]

theorem parse_iff_derives {source : String} {e : Expr} :
    parse source = .ok e ↔ ∃ lexemes, lex source = .ok lexemes ∧
      Derives .expression maxDepth (lexemes.map (·.token)) e := by
  rw [parse_eq_ok_iff]
  constructor
  · rintro ⟨lexemes, hl, h⟩
    obtain ⟨ls, hls, hd⟩ := (expressionIn_sound _ _).1 _ _ _ h
    rw [List.append_nil] at hls
    exact ⟨lexemes, hl, hls ▸ hd⟩
  · rintro ⟨lexemes, hl, hd⟩
    exact ⟨lexemes, hl, hd.expressionIn (Nat.le_refl _) _⟩

/-- A text is read as a tree exactly when it has tokens and the grammar derives that tree, and no
other, from all of them within 64 open productions. Operators between operands that leave room
for the expression around them are never too many. -/
theorem parse_exactly_grammar (source : String) :
    (∀ e, parse source = .ok e ↔ ∃ lexemes, lex source = .ok lexemes ∧
      Derives .expression 64 (lexemes.map (·.token)) e ∧
      ∀ n e', Derives .expression n (lexemes.map (·.token)) e' → e' = e) ∧
    ∀ lexemes, lex source = .ok lexemes → Chain 63 (lexemes.map (·.token)) →
      ∃ e, parse source = .ok e := by
  refine ⟨fun e => ?_, fun lexemes hl hc => ?_⟩
  · rw [parse_iff_derives]
    constructor
    · rintro ⟨lexemes, hl, hd⟩
      exact ⟨lexemes, hl, hd, fun n e' h => h.unique hd⟩
    · rintro ⟨lexemes, hl, hd, _⟩
      exact ⟨lexemes, hl, hd⟩
  · obtain ⟨e, hd⟩ := hc.derives
    exact ⟨e, parse_iff_derives.mpr ⟨lexemes, hl, hd⟩⟩

theorem parse_chain_of_two_levels :
    ∃ lexemes, lex "a - b * c" = .ok lexemes ∧ Chain 63 (lexemes.map (·.token)) ∧
      ∃ e, parse "a - b * c" = .ok e := by
  have hl : lex "a - b * c" = .ok [⟨.name "a", 0, 1⟩, ⟨.symbol .minus, 2, 1⟩, ⟨.name "b", 4, 1⟩,
      ⟨.symbol .star, 6, 1⟩, ⟨.name "c", 8, 1⟩] := by rfl
  have hname (name : String) (h : name ∉ reserved) :
      Derives .unary 63 [.name name] (.variable name) := .bare (.base (.named 63 h))
  have hab := Chain.join (.operand (hname "a" (by decide))) .minus (hname "b" (by decide))
  have hc := hab.join .star (hname "c" (by decide))
  exact ⟨_, hl, hc, (parse_exactly_grammar _).2 _ hl hc⟩

end AppDef.Expr
