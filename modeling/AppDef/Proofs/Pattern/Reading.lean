import AppDef.Pattern.Parser

namespace AppDef.Pattern

namespace Parse

variable {α β : Type} {c : Cursor} {f : α → Parse β}

@[simp] theorem run_pure (a : α) : (pure a : Parse α).run c = .ok (a, c) :=
  rfl

theorem run_bind (x : Parse α) (f : α → Parse β) : (x >>= f).run c =
    match x.run c with
    | .ok (a, c') => (f a).run c'
    | .error e => .error e :=
  rfl

theorem run_bind_error {x : Parse α} {e : SyntaxError} (h : x.run c = .error e)
    (f : α → Parse β) : (x >>= f).run c = .error e := by
  rw [run_bind, h]

@[simp] theorem run_ite {p : Prop} [Decidable p] (x y : Parse α) :
    (if p then x else y).run c = if p then x.run c else y.run c := by
  split <;> rfl

@[simp] theorem run_see_bind (look : Cursor → α) : (see look >>= f).run c = (f (look c)).run c :=
  rfl

@[simp] theorem run_place_bind (f : Place → Parse β) : (place >>= f).run c = (f c.place).run c :=
  rfl

@[simp] theorem run_charSpan_bind (f : Span → Parse β) :
    (charSpan >>= f).run c = (f c.charSpan).run c :=
  rfl

@[simp] theorem run_next_bind (f : Option Char → Parse β) :
    (next? >>= f).run c = (f c.rest.head?).run c :=
  rfl

@[simp] theorem run_atEnd_bind (f : Bool → Parse β) :
    (atEnd >>= f).run c = (f c.rest.isEmpty).run c :=
  rfl

@[simp] theorem run_fuelLeft_bind (f : Nat → Parse β) :
    (fuelLeft >>= f).run c = (f (c.rest.length + 1)).run c :=
  rfl

@[simp] theorem run_spanFrom_bind (start : Place) (f : Span → Parse β) :
    (spanFrom start >>= f).run c = (f ⟨start, c.place⟩).run c :=
  rfl

@[simp] theorem run_bump_bind (f : Bool → Parse β) :
    (bump >>= f).run c = (f !c.bump.rest.isEmpty).run c.bump :=
  rfl

@[simp] theorem run_skipSpace_bind (f : Unit → Parse β) :
    (skipSpace >>= f).run c = (f ()).run c.skipSpace :=
  rfl

@[simp] theorem run_bumpAndSkip_bind (f : Bool → Parse β) :
    (bumpAndSkip >>= f).run c = (f !c.bump.skipSpace.rest.isEmpty).run c.bump.skipSpace :=
  rfl

@[simp] theorem run_bumps_bind (count : Nat) (f : Unit → Parse β) :
    (bumps count >>= f).run c = (f ()).run (c.bumps count) :=
  rfl

@[simp] theorem run_bumpIf_bind (text : String) (f : Bool → Parse β) : (bumpIf text >>= f).run c =
    if text.toList.isPrefixOf c.rest then (f true).run (c.bumps text.length)
    else (f false).run c := by
  by_cases h : text.toList.isPrefixOf c.rest = true
  · rw [if_pos h, bumpIf, run_bind]
    simp only [run_see_bind, h]
    rfl
  · rw [if_neg h, bumpIf, run_bind]
    simp only [run_see_bind, h]
    rfl

@[simp] theorem run_refuse_bind (span : Span) (fault : Fault) :
    ((refuse span fault : Parse α) >>= f).run c = .error ⟨fault, span, none⟩ :=
  rfl

theorem run_ahead_bind (x : Parse α) (f : α → Parse β) : (ahead x >>= f).run c =
    match x.run c with
    | .ok (a, _) => (f a).run c
    | .error e => .error e := by
  rw [run_bind]
  cases h : x.run c <;> simp [ahead, h, Except.map]

end Parse

end AppDef.Pattern
