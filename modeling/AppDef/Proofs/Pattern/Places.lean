import AppDef.Pattern.Parser

namespace AppDef.Pattern

class Placed (α : Type) where
  moved : α → α

export Placed (moved)

instance : Placed Place where
  moved p := if p.line = 1 then ⟨1, p.column + 4⟩ else p

instance : Placed Span := ⟨fun s => ⟨moved s.start, moved s.stop⟩⟩

instance : Placed Unit := ⟨id⟩

instance : Placed Bool := ⟨id⟩

instance : Placed Nat := ⟨id⟩

instance : Placed Char := ⟨id⟩

instance : Placed String := ⟨id⟩

instance {α : Type} [Placed α] : Placed (List α) := ⟨List.map moved⟩

instance {α : Type} [Placed α] : Placed (Option α) := ⟨Option.map moved⟩

instance {α β : Type} [Placed α] [Placed β] : Placed (α × β) :=
  ⟨fun p => (moved p.1, moved p.2)⟩

instance : Placed SyntaxError where
  moved e := ⟨e.fault, moved e.span, moved e.earlier?⟩

instance {α : Type} [Placed α] : Placed (Except SyntaxError α) where
  moved
    | .ok a => .ok (moved a)
    | .error e => .error (moved e)

/-- Data without places. -/
class Placeless (α : Type) [Placed α] : Prop where
  moved_eq : ∀ a : α, moved a = a

export Placeless (moved_eq)

instance : Placeless Nat := ⟨fun _ => rfl⟩

instance : Placeless Char := ⟨fun _ => rfl⟩

instance : Placeless String := ⟨fun _ => rfl⟩

instance {α : Type} [Placed α] [Placeless α] : Placeless (List α) :=
  ⟨fun l => (List.map_congr_left fun a _ => moved_eq a).trans (List.map_id l)⟩

instance {α : Type} [Placed α] [Placeless α] : Placeless (Option α) where
  moved_eq
    | none => rfl
    | some a => congrArg some (moved_eq a)

instance {α β : Type} [Placed α] [Placed β] [Placeless α] [Placeless β] : Placeless (α × β) :=
  ⟨fun p => Prod.ext (moved_eq p.1) (moved_eq p.2)⟩

theorem moved_next {p : Place} (h : 1 ≤ p.line) (c : Char) :
    (moved p).next c = moved (p.next c) := by
  obtain ⟨line, column⟩ := p
  have hne : line ≠ 0 := Nat.one_le_iff_ne_zero.mp h
  simp only [moved, Place.next]
  by_cases hl : line = 1 <;> by_cases hc : c = '\n' <;> simp [hl, hc, hne]

theorem isEmpty_moved {α : Type} [Placed α] (l : List α) : (moved l).isEmpty = l.isEmpty :=
  List.isEmpty_map

instance : Placed Assertion := ⟨id⟩

instance : Placed FlagItem := ⟨id⟩

instance : Placeless FlagItem := ⟨fun _ => rfl⟩

instance : Placed Literal := ⟨fun l => { l with span := moved l.span }⟩

instance : Placed Primitive where
  moved
    | .literal l => .literal (moved l)
    | .assertion span a => .assertion (moved span) a
    | .dot span => .dot (moved span)
    | .simple span class_ => .simple (moved span) class_

mutual

def ClassSet.placed : ClassSet → ClassSet
  | .empty span => .empty (moved span)
  | .literal l => .literal (moved l)
  | .range span low high => .range (moved span) (moved low) (moved high)
  | .ascii span name negated => .ascii (moved span) name negated
  | .simple span class_ => .simple (moved span) class_
  | .bracketed span negated set => .bracketed (moved span) negated set.placed
  | .union span items => .union (moved span) (ClassSet.placedAll items)
  | .op span kind left right => .op (moved span) kind left.placed right.placed

def ClassSet.placedAll : List ClassSet → List ClassSet
  | [] => []
  | item :: items => item.placed :: ClassSet.placedAll items

end

instance : Placed ClassSet := ⟨ClassSet.placed⟩

mutual

def Ast.placed : Ast → Ast
  | .empty span => .empty (moved span)
  | .flags span items => .flags (moved span) items
  | .literal l => .literal (moved l)
  | .dot span => .dot (moved span)
  | .assertion span kind => .assertion (moved span) kind
  | .simple span class_ => .simple (moved span) class_
  | .bracketed span negated set => .bracketed (moved span) negated (moved set)
  | .repetition span min max? body => .repetition (moved span) min max? body.placed
  | .group span items body => .group (moved span) items body.placed
  | .alternation span branches => .alternation (moved span) (Ast.placedAll branches)
  | .concat span parts => .concat (moved span) (Ast.placedAll parts)

def Ast.placedAll : List Ast → List Ast
  | [] => []
  | part :: parts => part.placed :: Ast.placedAll parts

end

instance : Placed Ast := ⟨Ast.placed⟩

theorem Primitive.span_moved (p : Primitive) : (moved p).span = moved p.span := by
  cases p <;> rfl

theorem Primitive.toAst_moved (p : Primitive) : (moved p).toAst = moved p.toAst := by
  cases p <;> rfl

theorem ClassSet.span_moved (set : ClassSet) : (moved set).span = moved set.span := by
  cases set <;> rfl

theorem Ast.span_moved (a : Ast) : (moved a).span = moved a.span := by
  cases a <;> rfl

theorem ClassSet.placedAll_eq (items : List ClassSet) :
    ClassSet.placedAll items = moved items := by
  induction items with
  | nil => rfl
  | cons item items ih => exact congrArg (moved item :: ·) ih

theorem Ast.placedAll_eq (parts : List Ast) : Ast.placedAll parts = moved parts := by
  induction parts with
  | nil => rfl
  | cons part parts ih => exact congrArg (moved part :: ·) ih

theorem Ast.ofParts_moved (span : Span) (parts : List Ast) :
    Ast.ofParts (moved span) (moved parts) = moved (Ast.ofParts span parts) := by
  match parts with
  | [] => rfl
  | [a] => rfl
  | a :: b :: parts =>
    exact congrArg (Ast.concat (moved span)) (Ast.placedAll_eq (a :: b :: parts)).symm

theorem Ast.alternation_moved (span : Span) (branches : List Ast) :
    Ast.alternation (moved span) (moved branches) = moved (Ast.alternation span branches) :=
  congrArg (Ast.alternation (moved span)) (Ast.placedAll_eq branches).symm

instance : Placed Items := ⟨fun u => ⟨moved u.span, moved u.items⟩⟩

instance : Placed ClassFrame where
  moved
    | .opened outer span negated => .opened (moved outer) (moved span) negated
    | .op op left => .op op (moved left)

instance : Placed ClassState where
  moved
    | .inside frames items => .inside (moved frames) (moved items)
    | .whole ast => .whole (moved ast)

instance : Placed GroupStart where
  moved
    | .flags ast items => .flags (moved ast) items
    | .group span items => .group (moved span) items

instance : Placed GroupFrame where
  moved
    | .group before start span items ignoreSpace =>
      .group (moved before) (moved start) (moved span) items ignoreSpace
    | .alternation start branches => .alternation (moved start) (moved branches)

instance : Placed Parts := ⟨fun p => ⟨moved p.start, moved p.parts⟩⟩

theorem Items.isEmpty_moved (items : Items) :
    (moved items).items.isEmpty = items.items.isEmpty :=
  List.isEmpty_map

theorem Items.push_moved (items : Items) (item : ClassSet) :
    (moved items).push (moved item) = moved (items.push item) := by
  obtain ⟨span, _ | ⟨i, is⟩⟩ := items <;> simp only [Items.push, ClassSet.span_moved] <;> rfl

theorem Items.toSet_moved (items : Items) : (moved items).toSet = moved items.toSet := by
  match items with
  | ⟨span, []⟩ => rfl
  | ⟨span, [item]⟩ => rfl
  | ⟨span, i :: j :: is⟩ =>
    have hitems : ClassSet.placedAll (i :: j :: is).reverse = (moved (i :: j :: is)).reverse := by
      rw [ClassSet.placedAll_eq]
      exact List.map_reverse
    exact congrArg (ClassSet.union (moved span)) hitems.symm

theorem joinOp_moved (frames : List ClassFrame) (right : ClassSet) :
    joinOp (moved frames) (moved right) = moved (joinOp frames right) := by
  match frames with
  | [] => rfl
  | .opened _ _ _ :: _ => rfl
  | .op op left :: frames =>
    have hspan : (⟨(moved left).span.start, (moved right).span.stop⟩ : Span) =
        moved (⟨left.span.start, right.span.stop⟩ : Span) := by
      rw [ClassSet.span_moved, ClassSet.span_moved]
      rfl
    exact congrArg
      (fun span => (ClassSet.op span op (moved left) (moved right), moved frames)) hspan

theorem Parts.toAst_moved (p : Parts) (stop : Place) :
    (moved p).toAst (moved stop) = moved (p.toAst stop) := by
  have hreverse : (moved p.parts).reverse = moved p.parts.reverse := List.map_reverse.symm
  exact (congrArg (Ast.ofParts (moved ⟨p.start, stop⟩)) hreverse).trans (Ast.ofParts_moved _ _)

end AppDef.Pattern
