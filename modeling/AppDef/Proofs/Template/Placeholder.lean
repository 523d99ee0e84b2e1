import AppDef.Proofs.Expr.Naming
import AppDef.Proofs.Text
import AppDef.Template.Interpolate

namespace AppDef.Template

/-- A letter or an underscore, and any number of these and of digits behind it. -/
def isIdentifier : List Char → Bool
  | [] => false
  | c :: s => Placeholder.isStart c && s.all Placeholder.isPart

/-- A name between double braces. -/
structure Placeholder where
  before : String
  name : String
  after : String
  blank : (before.toList ++ after.toList).all Text.isBlank = true
  isName : isIdentifier name.toList = true

namespace Placeholder

/-- What follows the name. -/
def tail (p : Placeholder) (rest : List Char) : List Char :=
  p.after.toList ++ '\x7d' :: '\x7d' :: rest

/-- The placeholder as it is written in front of a text. -/
def write (p : Placeholder) (rest : List Char) : List Char :=
  '\x7b' :: '\x7b' :: (p.before.toList ++ (p.name.toList ++ p.tail rest))

/-- All blanks in the placeholder are ASCII. -/
def IsNarrow (p : Placeholder) : Prop :=
  ∀ c ∈ p.before.toList ++ p.after.toList, c.toNat < 128

instance (p : Placeholder) : Decidable p.IsNarrow :=
  List.decidableBAll _ _

end Placeholder

open Placeholder (isStart isPart)

variable {c d : Char} {s rest : List Char} {p : Placeholder}

/-- A run of characters of a kind is taken as far as it goes. -/
theorem span_eq {kind : Char → Bool} {t : List Char} (hs : ∀ c ∈ s, kind c = true)
    (ht : ∀ c ∈ t.head?, kind c = false) :
    (s ++ t).takeWhile kind = s ∧ (s ++ t).dropWhile kind = t := by
  refine ⟨?_, Text.dropWhile_append hs ht⟩
  rw [List.takeWhile_append_of_pos hs]
  cases t with
  | nil => simp
  | cons c t => simp [ht c rfl]

theorem code_of_isPart (h : isPart c = true) : 97 ≤ c.toNat ∧ c.toNat ≤ 122 ∨
    65 ≤ c.toNat ∧ c.toNat ≤ 90 ∨ 48 ≤ c.toNat ∧ c.toNat ≤ 57 ∨ c.toNat = 95 := by
  simp only [isPart, Text.isAlphanumeric, Text.isLetter, Text.isLower, Text.isUpper, Text.isDigit,
    Bool.or_eq_true, Bool.and_eq_true, decide_eq_true_eq, beq_iff_eq, or_assoc] at h
  rcases h with h | h | h | rfl
  · exact .inl h
  · exact .inr (.inl h)
  · exact .inr (.inr (.inl h))
  · exact .inr (.inr (.inr rfl))

theorem isPart_of_isStart (h : isStart c = true) : isPart c = true := by
  simp only [isStart, isPart, Text.isAlphanumeric, Bool.or_eq_true] at h ⊢
  tauto

theorem ne_of_isStart (h : isStart c = true) (hd : isStart d = false) : c ≠ d := by
  rintro rfl
  rw [h] at hd
  cases hd

theorem isNamePart_of_isPart (h : isPart c = true) : isNamePart c = true := by
  simp only [isPart, isNamePart, Bool.or_eq_true] at h ⊢
  tauto

theorem not_isSeparator_of_isPart (h : isPart c = true) : isSeparator c = false := by
  have hcode := code_of_isPart h
  rw [← Bool.not_eq_true]
  simp only [isSeparator, Bool.or_eq_true, beq_iff_eq, ← Char.toNat_inj, Char.reduceToNat]
  omega

theorem code_of_isBlank (h : Text.isBlank c = true) :
    9 ≤ c.toNat ∧ c.toNat ≤ 13 ∨ c.toNat = 32 ∨ 128 ≤ c.toNat := by
  simp only [Text.isBlank, Text.blanks, List.any_cons, List.any_nil, Bool.or_eq_true,
    Bool.and_eq_true, decide_eq_true_eq, Bool.false_eq_true, or_false] at h
  omega

theorem not_isPart_of_isBlank (h : Text.isBlank c = true) : isPart c = false := by
  have hblank := code_of_isBlank h
  rw [← Bool.not_eq_true]
  intro hpart
  have hcode := code_of_isPart hpart
  omega

/-- A vertical tab or a form feed: the blanks that stop the reading of a tag. -/
def IsFeed (c : Char) : Prop :=
  c = '\x0b' ∨ c = '\x0c'

theorem isSpace_or_isFeed (h : Text.isBlank c = true) (hn : c.toNat < 128) :
    isSpace c = true ∨ IsFeed c := by
  have hcode := code_of_isBlank h
  simp only [isSpace, IsFeed, Bool.or_eq_true, beq_iff_eq, ← Char.toNat_inj, Char.reduceToNat]
  omega

namespace Placeholder

theorem isBlank_of_mem (p : Placeholder) :
    ∀ c ∈ p.before.toList ++ p.after.toList, Text.isBlank c = true :=
  List.all_eq_true.mp p.blank

theorem name_eq (p : Placeholder) : ∃ c s, p.name.toList = c :: s ∧ isStart c = true := by
  have hname := p.isName
  cases hs : p.name.toList with
  | nil =>
    rw [hs] at hname
    cases hname
  | cons c s =>
    rw [hs] at hname
    exact ⟨c, s, rfl, (Bool.and_eq_true_iff.mp hname).1⟩

theorem isPart_of_mem (p : Placeholder) : ∀ c ∈ p.name.toList, isPart c = true := by
  have hname := p.isName
  obtain ⟨c, s, hs, hstart⟩ := p.name_eq
  rw [hs] at hname ⊢
  have hparts := List.all_eq_true.mp (Bool.and_eq_true_iff.mp hname).2
  exact List.forall_mem_cons.mpr ⟨isPart_of_isStart hstart, hparts⟩

/-- The name ends where the blanks or the braces begin. -/
theorem tail_eq (p : Placeholder) (rest : List Char) :
    ∃ c s, p.tail rest = c :: s ∧ (c = '\x7d' ∨ c ∈ p.after.toList) := by
  unfold tail
  cases p.after.toList with
  | nil => exact ⟨_, _, rfl, .inl rfl⟩
  | cons c s => exact ⟨_, _, rfl, .inr List.mem_cons_self⟩

/-- What stands behind the opening braces is a blank or the name. -/
theorem inside_ne (p : Placeholder) (rest : List Char) (hblank : Text.isBlank c = false)
    (hstart : isStart c = false) (s : List Char) :
    p.before.toList ++ (p.name.toList ++ p.tail rest) ≠ c :: s := by
  intro h
  cases hbefore : p.before.toList with
  | nil =>
    obtain ⟨d, r, hname, hd⟩ := p.name_eq
    rw [hbefore, hname] at h
    exact ne_of_isStart hd hstart (List.cons.inj h).1
  | cons d r =>
    have hd := p.isBlank_of_mem d (List.mem_append_left _ (hbefore ▸ List.mem_cons_self))
    rw [hbefore] at h
    rw [(List.cons.inj h).1, hblank] at hd
    cases hd

theorem read?_write (p : Placeholder) (rest : List Char) :
    read? (p.write rest) = some (p.name, rest) := by
  have hbefore : ∀ c ∈ p.before.toList, Text.isBlank c = true :=
    fun c hc => p.isBlank_of_mem c (List.mem_append_left _ hc)
  have hafter : ∀ c ∈ p.after.toList, Text.isBlank c = true :=
    fun c hc => p.isBlank_of_mem c (List.mem_append_right _ hc)
  obtain ⟨c, s, hname, hstart⟩ := p.name_eq
  have hskip : (p.before.toList ++ (p.name.toList ++ p.tail rest)).dropWhile Text.isBlank =
      p.name.toList ++ p.tail rest := by
    refine (span_eq hbefore ?_).2
    rw [hname]
    rintro _ ⟨⟩
    exact Expr.not_isBlank_of_isNameStart hstart
  have hstarts : ((p.name.toList ++ p.tail rest).head?.any isStart) = true := by
    rw [hname]
    exact hstart
  have hspan := span_eq (t := p.tail rest) p.isPart_of_mem (by
    obtain ⟨d, t, htail, hd⟩ := p.tail_eq rest
    rw [htail]
    rintro _ ⟨⟩
    rcases hd with rfl | hd
    · rfl
    · exact not_isPart_of_isBlank (hafter d hd))
  have hend : (p.tail rest).dropWhile Text.isBlank = '\x7d' :: '\x7d' :: rest := by
    refine (span_eq hafter ?_).2
    rintro _ ⟨⟩
    rfl
  simp [write, read?, hskip, hstarts, hspan.1, hspan.2, hend, -List.head?_append]

theorem replaceFrom_eq_drop (env : Environment) (n : Nat) (s : List Char) :
    replaceFrom env n s = replaceFrom env 0 (s.drop n) := by
  induction s generalizing n with
  | nil => cases n <;> rfl
  | cons c s ih =>
    cases n with
    | zero => rfl
    | succ n => exact ih n

/-- Plain substitution puts the value in the place of the name and goes on behind the braces. -/
theorem replaceFrom_write (env : Environment) (p : Placeholder) (rest : List Char) :
    replaceFrom env 0 (p.write rest) =
      (valueOf env p.name).toList ++ replaceFrom env 0 rest := by
  obtain ⟨inner, hwrite⟩ : ∃ inner, p.write rest = '\x7b' :: (inner ++ rest) :=
    ⟨'\x7b' :: (p.before.toList ++ (p.name.toList ++ (p.after.toList ++ ['\x7d', '\x7d']))),
      by simp [write, tail]⟩
  have hread := p.read?_write rest
  rw [hwrite] at hread ⊢
  simp only [replaceFrom, hread]
  rw [replaceFrom_eq_drop, List.length_append, Nat.add_sub_cancel, List.drop_left]

end Placeholder

end AppDef.Template
