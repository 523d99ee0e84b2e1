import Mathlib.Data.List.Forall2

namespace AppDef

variable {ε α β : Type}

@[simp] theorem except_pure (a : α) : (pure a : Except ε α) = .ok a :=
  rfl

@[simp] theorem except_ok_bind (a : α) (f : α → Except ε β) : (Except.ok a >>= f) = f a :=
  rfl

@[simp] theorem except_error_bind (e : ε) (f : α → Except ε β) :
    (Except.error e >>= f) = .error e :=
  rfl

@[simp] theorem except_ok_map (a : α) (f : α → β) : (Except.ok a : Except ε α).map f = .ok (f a) :=
  rfl

@[simp] theorem except_ok_mapError {ε' : Type} (a : α) (f : ε → ε') :
    (Except.ok a : Except ε α).mapError f = .ok a :=
  rfl

theorem except_bind_eq_ok {x : Except ε α} {f : α → Except ε β} {b : β} :
    (x >>= f) = .ok b ↔ ∃ a, x = .ok a ∧ f a = .ok b := by
  cases x <;> simp

theorem except_bind_eq_error {x : Except ε α} {f : α → Except ε β} {e : ε} :
    (x >>= f) = .error e ↔ x = .error e ∨ ∃ a, x = .ok a ∧ f a = .error e := by
  cases x <;> simp

theorem except_map_eq_ok {x : Except ε α} {f : α → β} {b : β} :
    x.map f = .ok b ↔ ∃ a, x = .ok a ∧ f a = b := by
  cases x <;> simp [Except.map]

theorem except_map_eq_error {x : Except ε α} {f : α → β} {e : ε} :
    x.map f = .error e ↔ x = .error e := by
  cases x <;> simp [Except.map]

theorem except_map_isOk {x : Except ε α} {f : α → β} :
    (∃ b, x.map f = .ok b) ↔ ∃ a, x = .ok a := by
  cases x <;> simp [Except.map]

theorem except_mapError_eq_ok {ε' : Type} {x : Except ε α} {f : ε → ε'} {a : α} :
    x.mapError f = .ok a ↔ x = .ok a := by
  cases x <;> simp [Except.mapError]

theorem except_mapError_eq_error {ε' : Type} {x : Except ε α} {f : ε → ε'} {e' : ε'} :
    x.mapError f = .error e' ↔ ∃ e, x = .error e ∧ f e = e' := by
  cases x <;> simp [Except.mapError]

/-- A part that may be left out is back when what it became is turned back. -/
theorem option_bind_map {o : Option α} {encode : α → β} {decode : β → Option α}
    (h : ∀ a, o = some a → decode (encode a) = some a) : (o.map encode).bind decode = o := by
  cases o with
  | none => rfl
  | some a => exact h a rfl

/-- The computation ends in a value of one kind or in an error of another. -/
def Ends (x : Except ε α) (value : α → Prop) (failure : ε → Prop) : Prop :=
  match x with
  | .ok a => value a
  | .error e => failure e

variable {value value' : α → Prop} {failure failure' : ε → Prop} {x : Except ε α}

@[simp] theorem ends_ok {a : α} : Ends (.ok a : Except ε α) value failure ↔ value a :=
  Iff.rfl

@[simp] theorem ends_error {e : ε} : Ends (.error e : Except ε α) value failure ↔ failure e :=
  Iff.rfl

theorem Ends.mono (h : Ends x value failure) (hv : ∀ a, value a → value' a)
    (hf : ∀ e, failure e → failure' e) : Ends x value' failure' := by
  cases x with
  | ok a => exact hv a h
  | error e => exact hf e h

theorem Ends.bind {f : α → Except ε β} {next : β → Prop} (h : Ends x value failure)
    (hf : ∀ a, value a → Ends (f a) next failure) : Ends (x >>= f) next failure := by
  cases x with
  | ok a => exact hf a h
  | error e => exact h

theorem Ends.map {f : α → β} {result : β → Prop} (h : Ends x value failure)
    (hv : ∀ a, value a → result (f a)) (hf : ∀ e, failure e → failure' e) :
    Ends (x.map f) result failure' := by
  cases x with
  | ok a => exact hv a h
  | error e => exact hf e h

theorem except_mapM_eq_ok {f : α → Except ε β} {l : List α} {l' : List β} :
    l.mapM f = .ok l' ↔ List.Forall₂ (fun a b => f a = .ok b) l l' := by
  induction l generalizing l' with
  | nil => cases l' <;> simp
  | cons a l ih =>
    simp only [List.mapM_cons, except_bind_eq_ok, except_pure, ih, List.forall₂_cons_left_iff]
    constructor
    · rintro ⟨b, hb, bs, hbs, he⟩
      cases he
      exact ⟨b, bs, hb, hbs, rfl⟩
    · rintro ⟨b, bs, hb, hbs, rfl⟩
      exact ⟨b, hb, bs, hbs, rfl⟩

theorem except_mapM_isOk {f : α → Except ε β} {l : List α} :
    (∃ l', l.mapM f = .ok l') ↔ ∀ a ∈ l, ∃ b, f a = .ok b := by
  induction l with
  | nil => simp
  | cons a l ih =>
    simp only [List.mapM_cons, except_bind_eq_ok, except_pure, List.forall_mem_cons, ← ih]
    constructor
    · rintro ⟨_, b, hb, bs, hbs, _⟩
      exact ⟨⟨b, hb⟩, bs, hbs⟩
    · rintro ⟨⟨b, hb⟩, bs, hbs⟩
      exact ⟨_, b, hb, bs, hbs, rfl⟩

theorem except_forM_ok {f : α → Except ε Unit} {l : List α} (h : ∀ a ∈ l, f a = .ok ()) :
    l.forM f = .ok () := by
  induction l with
  | nil => rfl
  | cons a l ih =>
    obtain ⟨hhead, htail⟩ := List.forall_mem_cons.mp h
    change (f a >>= fun _ => l.forM f) = .ok ()
    rw [hhead, except_ok_bind]
    exact ih htail

/-- The first error ends a pass over a list. -/
theorem except_forM_error {f : α → Except ε Unit} {before : List α} {a : α} {e : ε}
    (hbefore : ∀ b ∈ before, f b = .ok ()) (ha : f a = .error e) (after : List α) :
    (before ++ a :: after).forM f = .error e := by
  induction before with
  | nil =>
    change (f a >>= fun _ => after.forM f) = .error e
    rw [ha, except_error_bind]
  | cons b before ih =>
    obtain ⟨hhead, htail⟩ := List.forall_mem_cons.mp hbefore
    change (f b >>= fun _ => (before ++ a :: after).forM f) = .error e
    rw [hhead, except_ok_bind]
    exact ih htail

/-- All items are of a kind, or one of them is the first that is not. -/
theorem all_or_first (P : α → Prop) (l : List α) :
    (∀ a ∈ l, P a) ∨
      ∃ before a after, l = before ++ a :: after ∧ (∀ b ∈ before, P b) ∧ ¬ P a := by
  induction l with
  | nil => exact .inl fun _ h => absurd h List.not_mem_nil
  | cons a l ih =>
    by_cases ha : P a
    · rcases ih with hall | ⟨before, x, after, rfl, hbefore, hx⟩
      · exact .inl (List.forall_mem_cons.mpr ⟨ha, hall⟩)
      · exact .inr ⟨a :: before, x, after, rfl, List.forall_mem_cons.mpr ⟨ha, hbefore⟩, hx⟩
    · exact .inr ⟨[], a, l, rfl, fun _ h => absurd h List.not_mem_nil, ha⟩

/-- Steps that look at their item alone make a run exactly when each of them can be taken. -/
theorem except_foldlM_isOk {P : α → Prop} {f : β → α → Except ε β} {l : List α} {b : β}
    (hstep : ∀ a b, (∃ b', f b a = .ok b') ↔ P a) :
    (∃ b', l.foldlM f b = .ok b') ↔ ∀ a ∈ l, P a := by
  induction l generalizing b with
  | nil => simp
  | cons a l ih =>
    simp only [List.foldlM_cons, except_bind_eq_ok, List.forall_mem_cons, ← hstep a b]
    constructor
    · rintro ⟨b', b'', ha, h⟩
      exact ⟨⟨b'', ha⟩, ih.mp ⟨b', h⟩⟩
    · rintro ⟨⟨b'', ha⟩, htail⟩
      obtain ⟨b', h⟩ := ih.mpr htail
      exact ⟨b', b'', ha, h⟩

end AppDef
