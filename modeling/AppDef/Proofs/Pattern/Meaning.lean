import AppDef.Pattern.Basic
import AppDef.Proofs.Pattern.Places

namespace AppDef.Pattern

variable {α β : Type} [Placed α] [Placed β]

instance : Placed CharSet := ⟨id⟩

instance : Placeless CharSet := ⟨fun _ => rfl⟩

instance : Placed Pattern := ⟨id⟩

instance : Placeless Pattern := ⟨fun _ => rfl⟩

instance : Placed Flags := ⟨id⟩

instance : Placeless Flags := ⟨fun _ => rfl⟩

theorem moved_bind (x : Meaning α) {f g : α → Meaning β} (h : ∀ a, g (moved a) = moved (f a)) :
    (moved x >>= g) = moved (x >>= f) := by
  cases x with
  | error e => rfl
  | ok a => exact h a

theorem encodable_moved (f : Flags) (span : Span) (set : CharSet) :
    encodable f (moved span) set = moved (encodable f span set) := by
  unfold encodable
  split <;> rfl

theorem checkByte_moved (f : Flags) (l : Literal) :
    checkByte f (moved l) = moved (checkByte f l) := by
  unfold checkByte
  change (if (!f.unicode && l.isByte && decide (127 < l.character.toNat)) = true then
    refuseAt (moved l.span) .invalidEncoding else .ok ()) = _
  split <;> rfl

theorem literalPattern_moved (f : Flags) (l : Literal) :
    literalPattern f (moved l) = moved (literalPattern f l) := by
  unfold literalPattern
  rw [checkByte_moved]
  exact moved_bind _ fun _ => rfl

theorem classLiteral_moved (f : Flags) (l : Literal) :
    classLiteral f (moved l) = moved (classLiteral f l) := by
  unfold classLiteral
  rw [checkByte_moved]
  refine moved_bind _ fun _ => ?_
  change (if (!f.unicode && decide (127 < l.character.toNat)) = true then
    refuseAt (moved l.span) .unicodeNotAllowed else pure l.character.toNat) = _
  split <;> rfl

theorem simpleSet_moved (f : Flags) (span : Span) (class_ : SimpleClass) :
    simpleSet f (moved span) class_ = moved (simpleSet f span class_) := by
  cases class_ with
  | letter kind negated => exact encodable_moved f span _
  | property name negated =>
    simp only [simpleSet]
    split
    · rfl
    · cases name.set with
      | ok set => exact encodable_moved f span _
      | error fault => rfl

mutual

theorem classSet_moved (f : Flags) : (set : ClassSet) →
    classSet f (moved set) = moved (classSet f set)
  | .empty _ => rfl
  | .literal l => by
    change (classLiteral f (moved l) >>= _) = _
    rw [classLiteral_moved]
    exact moved_bind _ fun _ => rfl
  | .range _ low high => by
    change (classLiteral f (moved low) >>= fun low => classLiteral f (moved high) >>= _) = _
    rw [classLiteral_moved, classLiteral_moved]
    exact moved_bind _ fun _ => moved_bind _ fun _ => rfl
  | .ascii span name negated => encodable_moved f span _
  | .simple span class_ => simpleSet_moved f span class_
  | .bracketed span negated set => by
    change (classSet f (moved set) >>= _) = _
    rw [classSet_moved f set]
    exact moved_bind _ fun set => encodable_moved f span _
  | .union _ items => by
    change (classSets f (ClassSet.placedAll items) >>= _) = _
    rw [classSets_moved f items]
    exact moved_bind _ fun sets => by rw [moved_eq sets]; rfl
  | .op _ op left right => by
    change (classSet f (moved left) >>= fun left => classSet f (moved right) >>= _) = _
    rw [classSet_moved f left, classSet_moved f right]
    exact moved_bind _ fun _ => moved_bind _ fun _ => rfl

theorem classSets_moved (f : Flags) : (items : List ClassSet) →
    classSets f (ClassSet.placedAll items) = moved (classSets f items)
  | [] => rfl
  | item :: items => by
    change (classSet f (moved item) >>= fun set => classSets f (ClassSet.placedAll items) >>= _) = _
    rw [classSet_moved f item, classSets_moved f items]
    exact moved_bind _ fun _ => moved_bind _ fun _ => rfl

end

mutual

theorem ofAst_moved (f : Flags) : (a : Ast) → ofAst f (moved a) = moved (ofAst f a)
  | .empty _ => rfl
  | .flags _ _ => rfl
  | .literal l => by
    change (literalPattern f (moved l) >>= _) = _
    rw [literalPattern_moved]
    exact moved_bind _ fun _ => rfl
  | .dot span => by
    change (if f.unicode = true then _ else _) = moved (if f.unicode = true then _ else _)
    split <;> rfl
  | .assertion _ _ => rfl
  | .simple span class_ => by
    change (simpleSet f (moved span) class_ >>= _) = _
    rw [simpleSet_moved]
    exact moved_bind _ fun _ => rfl
  | .bracketed span negated set => by
    change (classSet f (moved set) >>= fun set =>
      foldAndNegate f (moved span) negated set >>= _) = _
    rw [classSet_moved]
    refine moved_bind _ fun set => ?_
    change (encodable f (moved span) _ >>= _) = _
    rw [encodable_moved]
    exact moved_bind _ fun _ => rfl
  | .repetition _ _ _ body => by
    change (ofAst f (moved body) >>= _) = _
    rw [ofAst_moved f body]
    exact moved_bind _ fun _ => rfl
  | .group _ items body => by
    change (ofAst (f.update items) (moved body) >>= _) = _
    rw [ofAst_moved (f.update items) body]
    exact moved_bind _ fun _ => rfl
  | .alternation _ branches => by
    change (ofAsts f (Ast.placedAll branches) >>= _) = _
    rw [ofAsts_moved f branches]
    exact moved_bind _ fun ps => by rw [moved_eq ps]; rfl
  | .concat _ parts => by
    change (ofAsts f (Ast.placedAll parts) >>= _) = _
    rw [ofAsts_moved f parts]
    exact moved_bind _ fun ps => by rw [moved_eq ps]; rfl

theorem ofAsts_moved (f : Flags) : (as : List Ast) →
    ofAsts f (Ast.placedAll as) = moved (ofAsts f as)
  | [] => rfl
  | a :: as => by
    change (ofAst f (moved a) >>= _) = _
    rw [ofAst_moved f a]
    refine moved_bind _ fun p => ?_
    change (ofAsts p.2 (Ast.placedAll as) >>= _) = _
    rw [ofAsts_moved p.2 as]
    exact moved_bind _ fun _ => rfl

end

theorem orElse_moved (x y : Option Span) :
    ((moved x).orElse fun _ => moved y) = moved (x.orElse fun _ => y) := by
  cases x <;> rfl

theorem deep_moved {room : Nat} (span : Span) {x y : Option Span} (h : x = moved y) :
    (if room = 0 then some (moved span) else x) = moved (if room = 0 then some span else y) := by
  rw [h]
  split <;> rfl

mutual

theorem tooDeepSet?_moved : (room : Nat) → (set : ClassSet) →
    tooDeepSet? room (moved set) = moved (tooDeepSet? room set)
  | room, .bracketed span _ set => deep_moved span (tooDeepSet?_moved (room - 1) set)
  | room, .union span items => deep_moved span (tooDeepItems?_moved (room - 1) items)
  | room, .op span _ left right => by
    refine deep_moved span ?_
    rw [← orElse_moved, ← tooDeepSet?_moved (room - 1) left, ← tooDeepSet?_moved (room - 1) right]
    rfl
  | _, .empty _ => rfl
  | _, .literal _ => rfl
  | _, .range _ _ _ => rfl
  | _, .ascii _ _ _ => rfl
  | _, .simple _ _ => rfl

theorem tooDeepItems?_moved : (room : Nat) → (items : List ClassSet) →
    tooDeepItems? room (ClassSet.placedAll items) = moved (tooDeepItems? room items)
  | _, [] => rfl
  | room, item :: items => by
    simp only [tooDeepItems?, ClassSet.placedAll]
    rw [← orElse_moved, ← tooDeepSet?_moved room item, ← tooDeepItems?_moved room items]
    rfl

end

mutual

theorem tooDeep?_moved : (room : Nat) → (a : Ast) →
    tooDeep? room (moved a) = moved (tooDeep? room a)
  | room, .bracketed span _ set => deep_moved span (tooDeepSet?_moved (room - 1) set)
  | room, .repetition span _ _ body => deep_moved span (tooDeep?_moved (room - 1) body)
  | room, .group span _ body => deep_moved span (tooDeep?_moved (room - 1) body)
  | room, .alternation span branches => deep_moved span (tooDeepParts?_moved (room - 1) branches)
  | room, .concat span parts => deep_moved span (tooDeepParts?_moved (room - 1) parts)
  | _, .empty _ => rfl
  | _, .flags _ _ => rfl
  | _, .literal _ => rfl
  | _, .dot _ => rfl
  | _, .assertion _ _ => rfl
  | _, .simple _ _ => rfl

theorem tooDeepParts?_moved : (room : Nat) → (parts : List Ast) →
    tooDeepParts? room (Ast.placedAll parts) = moved (tooDeepParts? room parts)
  | _, [] => rfl
  | room, part :: parts => by
    simp only [tooDeepParts?, Ast.placedAll]
    rw [← orElse_moved, ← tooDeep?_moved room part, ← tooDeepParts?_moved room parts]
    rfl

end

theorem deep_mono {room more : Nat} {span : Span} {x y : Option Span} (h : room ≤ more)
    (hn : (if room = 0 then some span else x) = none) (hxy : x = none → y = none) :
    (if more = 0 then some span else y) = none := by
  have hroom : room ≠ 0 := by
    rintro rfl
    cases hn
  rw [if_neg hroom] at hn
  rw [if_neg (by omega)]
  exact hxy hn

theorem orElse_mono {x x' y y' : Option Span} (hn : (x.orElse fun _ => y) = none)
    (hx : x = none → x' = none) (hy : y = none → y' = none) :
    (x'.orElse fun _ => y') = none := by
  cases x with
  | some span => cases hn
  | none => rw [hx rfl, hy hn]; rfl

mutual

theorem tooDeepSet?_mono : {room more : Nat} → room ≤ more → (set : ClassSet) →
    tooDeepSet? room set = none → tooDeepSet? more set = none
  | _, _, h, .bracketed _ _ set, hn =>
    deep_mono h hn (tooDeepSet?_mono (Nat.sub_le_sub_right h 1) set)
  | _, _, h, .union _ items, hn =>
    deep_mono h hn (tooDeepItems?_mono (Nat.sub_le_sub_right h 1) items)
  | _, _, h, .op _ _ left right, hn => deep_mono h hn fun hn =>
    orElse_mono hn (tooDeepSet?_mono (Nat.sub_le_sub_right h 1) left)
      (tooDeepSet?_mono (Nat.sub_le_sub_right h 1) right)
  | _, _, _, .empty _, _ => rfl
  | _, _, _, .literal _, _ => rfl
  | _, _, _, .range _ _ _, _ => rfl
  | _, _, _, .ascii _ _ _, _ => rfl
  | _, _, _, .simple _ _, _ => rfl

theorem tooDeepItems?_mono : {room more : Nat} → room ≤ more → (items : List ClassSet) →
    tooDeepItems? room items = none → tooDeepItems? more items = none
  | _, _, _, [], _ => rfl
  | _, _, h, item :: items, hn =>
    orElse_mono hn (tooDeepSet?_mono h item) (tooDeepItems?_mono h items)

end

mutual

theorem tooDeep?_mono : {room more : Nat} → room ≤ more → (a : Ast) →
    tooDeep? room a = none → tooDeep? more a = none
  | _, _, h, .bracketed _ _ set, hn =>
    deep_mono h hn (tooDeepSet?_mono (Nat.sub_le_sub_right h 1) set)
  | _, _, h, .repetition _ _ _ body, hn =>
    deep_mono h hn (tooDeep?_mono (Nat.sub_le_sub_right h 1) body)
  | _, _, h, .group _ _ body, hn => deep_mono h hn (tooDeep?_mono (Nat.sub_le_sub_right h 1) body)
  | _, _, h, .alternation _ branches, hn =>
    deep_mono h hn (tooDeepParts?_mono (Nat.sub_le_sub_right h 1) branches)
  | _, _, h, .concat _ parts, hn =>
    deep_mono h hn (tooDeepParts?_mono (Nat.sub_le_sub_right h 1) parts)
  | _, _, _, .empty _, _ => rfl
  | _, _, _, .flags _ _, _ => rfl
  | _, _, _, .literal _, _ => rfl
  | _, _, _, .dot _, _ => rfl
  | _, _, _, .assertion _ _, _ => rfl
  | _, _, _, .simple _ _, _ => rfl

theorem tooDeepParts?_mono : {room more : Nat} → room ≤ more → (parts : List Ast) →
    tooDeepParts? room parts = none → tooDeepParts? more parts = none
  | _, _, _, [], _ => rfl
  | _, _, h, part :: parts, hn => orElse_mono hn (tooDeep?_mono h part) (tooDeepParts?_mono h parts)

end

end AppDef.Pattern
