import AppDef.Template.Format
import AppDef.Proofs.Number.Fixed

namespace AppDef.Template

open AppDef.Number (kind fixed signed Parts IsRounded IsSplit)

variable {s whole cents : List Char} {c : Char} {negative : Bool} {x : Float} {p : Parts}

theorem grouped_cons_of_full (hs : s ≠ []) (h : s.length % 3 = 0) :
    grouped (c :: s) = c :: ',' :: grouped s := by
  simp [grouped, hs, h]

theorem grouped_cons_of_open (h : s.length % 3 ≠ 0) : grouped (c :: s) = c :: grouped s := by
  simp [grouped, h]

/-- A first group of one to three characters, and further ones of exactly three. -/
structure InThrees (first : List Char) (groups : List (List Char)) : Prop where
  pos : 0 < first.length
  most : first.length ≤ 3
  three : ∀ g ∈ groups, g.length = 3

/-- The groups, with a comma before each but the first. -/
def parted (first : List Char) (groups : List (List Char)) : List Char :=
  first ++ groups.flatMap (',' :: ·)

theorem InThrees.length {first : List Char} {groups : List (List Char)}
    (h : InThrees first groups) :
    (first ++ groups.flatten).length = first.length + 3 * groups.length := by
  rw [List.length_append, List.length_flatten, List.map_congr_left h.three]
  simp [Nat.mul_comm]

/-- By induction on the characters: one that stands before full groups only begins a new group. -/
theorem grouped_eq_parted (hs : s ≠ []) :
    ∃ first groups, s = first ++ groups.flatten ∧ grouped s = parted first groups ∧
      InThrees first groups := by
  induction s with
  | nil => exact absurd rfl hs
  | cons c s ih =>
    rcases eq_or_ne s [] with rfl | hne
    · exact ⟨[c], [], rfl, rfl, ⟨Nat.one_pos, Nat.one_le_ofNat, List.forall_mem_nil _⟩⟩
    · obtain ⟨first, groups, hflat, hparted, hthrees⟩ := ih hne
      have hlength : s.length = first.length + 3 * groups.length := by rw [hflat, hthrees.length]
      have hpos := hthrees.pos
      have hmost := hthrees.most
      by_cases hfull : s.length % 3 = 0
      · have hfirst : first.length = 3 := by omega
        refine ⟨[c], first :: groups, ?_, ?_, ⟨Nat.one_pos, Nat.one_le_ofNat, ?_⟩⟩
        · rw [hflat]
          rfl
        · rw [grouped_cons_of_full hne hfull, hparted]
          rfl
        · exact List.forall_mem_cons.mpr ⟨hfirst, hthrees.three⟩
      · refine ⟨c :: first, groups, ?_, ?_, ⟨Nat.succ_pos _, ?_, hthrees.three⟩⟩
        · rw [hflat]
          rfl
        · rw [grouped_cons_of_open hfull, hparted]
          rfl
        · rw [List.length_cons]
          omega

def withoutCommas (s : List Char) : List Char :=
  s.filter (· ≠ ',')

def withoutSign : List Char → List Char
  | '-' :: s => s
  | s => s

theorem mem_withoutCommas (hc : c ≠ ',') : c ∈ withoutCommas s ↔ c ∈ s := by
  simp [withoutCommas, hc]

theorem withoutCommas_of_not_mem (h : ',' ∉ s) : withoutCommas s = s := by
  rw [withoutCommas, List.filter_eq_self]
  intro d hd
  exact decide_eq_true (ne_of_mem_of_not_mem hd h)

theorem withoutCommas_append (s t : List Char) :
    withoutCommas (s ++ t) = withoutCommas s ++ withoutCommas t :=
  List.filter_append s t

theorem withoutCommas_signed :
    withoutCommas (signed negative s) = signed negative (withoutCommas s) := by
  cases negative <;> rfl

/-- Grouping puts in commas and nothing else. -/
theorem withoutCommas_grouped (s : List Char) : withoutCommas (grouped s) = withoutCommas s := by
  induction s with
  | nil => rfl
  | cons c s ih =>
    unfold withoutCommas at *
    rw [grouped]
    split
    · rw [List.filter_cons, List.filter_cons, List.filter_cons, ih]
      rfl
    · rw [List.filter_cons, List.filter_cons, ih]

theorem withoutSign_signed (h : '-' ∉ s) : withoutSign (signed negative s) = s := by
  cases negative with
  | true => rfl
  | false =>
    change withoutSign s = s
    unfold withoutSign
    split
    · exact absurd List.mem_cons_self h
    · rfl

theorem minus_mem_signed_iff (h : '-' ∉ s) : '-' ∈ signed negative s ↔ negative = true := by
  cases negative with
  | true => simp [signed]
  | false => simp [signed, h]

/-- The text is cut at its point, and what stands before the point is grouped. -/
theorem currency_eq (htext : (fixed 2 x.abs).toList = whole ++ '.' :: cents)
    (hpoint : '.' ∉ whole) :
    (currency x).toList = signed (decide (x < 0)) (grouped whole ++ '.' :: cents) := by
  have hbefore : ∀ d ∈ whole, (d != '.') = true := fun d hd =>
    bne_iff_ne.mpr (ne_of_mem_of_not_mem hd hpoint)
  have htake : (fixed 2 x.abs).toList.takeWhile (· != '.') = whole := by
    rw [htext, List.takeWhile_append_of_pos hbefore, List.takeWhile_cons_of_neg (by decide),
      List.append_nil]
  have hdrop : (fixed 2 x.abs).toList.dropWhile (· != '.') = '.' :: cents := by
    rw [htext, List.dropWhile_append_of_pos hbefore, List.dropWhile_cons_of_neg (by decide)]
  simp only [currency, htake, hdrop, String.toList_ofList]
  by_cases hx : x < 0 <;> simp [hx, signed]

/-- The text of a magnitude with two places. -/
theorem fixed_abs (hk : kind x = .finite p) :
    ∃ hundredths whole cents, IsRounded (p.size * 10 ^ 2) hundredths ∧
      IsSplit 2 hundredths whole cents ∧ (fixed 2 x.abs).toList = whole ++ '.' :: cents :=
  Number.fixed_spec (Number.kind_abs hk) Nat.two_pos

theorem withoutCommas_currency (htext : (fixed 2 x.abs).toList = whole ++ '.' :: cents)
    (hpoint : '.' ∉ whole) (hcomma : ',' ∉ whole ++ '.' :: cents) :
    withoutCommas (currency x).toList = signed (decide (x < 0)) (fixed 2 x.abs).toList := by
  rw [currency_eq htext hpoint, withoutCommas_signed, withoutCommas_append, withoutCommas_grouped,
    ← withoutCommas_append, withoutCommas_of_not_mem hcomma, htext]

/-- Of a number as an amount of money the commas and the minus are all that is added to the text of
its magnitude with two places. That text counts the nearest whole number of hundredths; its digits
before the point stand in threes, and the minus is there exactly if the number is below zero. -/
theorem currency_changes_only_commas (hx : x.isFinite = true) :
    withoutSign (withoutCommas (currency x).toList) = (fixed 2 x.abs).toList ∧
      ('-' ∈ (currency x).toList ↔ x < 0) ∧
      ∃ p hundredths first groups cents, kind x = .finite p ∧
        IsRounded (p.size * 10 ^ 2) hundredths ∧
        IsSplit 2 hundredths (first ++ groups.flatten) cents ∧ InThrees first groups ∧
        (fixed 2 x.abs).toList = first ++ groups.flatten ++ '.' :: cents ∧
        (currency x).toList =
          signed (decide (x < 0)) (parted first groups ++ '.' :: cents) := by
  obtain ⟨p, hk⟩ := Number.isFinite_iff.mp hx
  obtain ⟨hundredths, whole, cents, hrounded, hsplit, htext⟩ := fixed_abs hk
  have hpoint : '.' ∉ whole :=
    Number.not_mem_of_isDigit (fun _ => hsplit.isDigit_of_mem_whole) rfl
  have hminus : '-' ∉ (fixed 2 x.abs).toList := htext ▸ hsplit.not_mem (by decide) rfl
  have hless := withoutCommas_currency htext hpoint (hsplit.not_mem (by decide) rfl)
  obtain ⟨first, groups, rfl, hparted, hthrees⟩ := grouped_eq_parted hsplit.whole_ne_nil
  refine ⟨?_, ?_, p, hundredths, first, groups, cents, hk, hrounded, hsplit, hthrees, htext, ?_⟩
  · rw [hless, withoutSign_signed hminus]
  · rw [← mem_withoutCommas (by decide), hless, minus_mem_signed_iff hminus, decide_eq_true_iff]
  · rw [currency_eq htext hpoint, hparted]

/-- A debt of more than a million, with a third place that is rounded. -/
theorem currency_changes_only_commas_debt :
    let debt := Number.nearest true 1234567891 1000
    debt.isFinite = true ∧ currency debt = "-1,234,567.89" ∧
      withoutSign (withoutCommas (currency debt).toList) = "1234567.89".toList ∧
      '-' ∈ (currency debt).toList ∧ debt < 0 := by
  intro debt
  have hfinite : debt.isFinite = true := by decide +kernel
  have hcurrency : currency debt = "-1,234,567.89" := by decide +kernel
  have hfixed : fixed 2 debt.abs = "1234567.89" := by decide +kernel
  obtain ⟨hless, hminus, -⟩ := currency_changes_only_commas hfinite
  have hmem : '-' ∈ (currency debt).toList := by
    rw [hcurrency]
    decide
  exact ⟨hfinite, hcurrency, hfixed ▸ hless, hmem, hminus.mp hmem⟩

/-- What is below zero keeps its minus where all of its digits are rounded away. -/
example : currency (Number.nearest true 1 1000) = "-0.00" := by decide +kernel

end AppDef.Template
