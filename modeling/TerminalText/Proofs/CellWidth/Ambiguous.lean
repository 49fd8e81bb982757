import TerminalText.Proofs.CellWidth.Classes

/-!
# Ambiguous characters

Where ambiguous characters are taken for wide, a code point takes another cell if it is narrow
otherwise and some range of `ambiguousTable` holds it (`IsWidened`), and every other code point
keeps its width (`ofPoint_true`).  That the table also holds marks and variation selectors, which
take no cell, makes no difference to them; the soft hyphen is a mark and narrow, and so it widens.

A run grows by one column for each of its code points that widens before the first NUL
(`ofRun_widened`).  As each of them took one column, the run at most doubles.
-/

namespace TerminalText.CellWidth

open RangeTable (contains_iff covers_iff_toList wellFormed_iff_toList)

/-- Narrow as a rule, but ambiguous. -/
def IsWidened (p : Nat) : Prop := ofPoint false p = narrow ∧ ambiguousTable.Covers p

instance : DecidablePred IsWidened := fun p =>
  inferInstanceAs (Decidable (ofPoint false p = narrow ∧ ambiguousTable.Covers p))

/-! ### One code point -/

theorem ambiguousTable_wellFormed : ambiguousTable.WellFormed :=
  wellFormed_iff_toList.mpr (by decide +kernel)

variable {p : Nat}

/-- No character of ASCII is ambiguous. -/
theorem ambiguous_bound (h : ambiguousTable.Covers p) : 0x80 ≤ p := by
  have hrows : ∀ i ∈ ambiguousTable.toList, 0x80 ≤ i.first := by decide +kernel
  obtain ⟨i, hi, hp⟩ := covers_iff_toList.mp h
  exact Nat.le_trans (hrows i hi) hp.1

/-- The choice for ambiguous characters decides on those that widen, and on no others. -/
theorem ofPoint_true (p : Nat) :
    ofPoint true p = if IsWidened p then wide else ofPoint false p := by
  have hiff : (plain p = narrow ∧ 0x80 ≤ p ∧ ambiguousTable.contains p = true) ↔ IsWidened p := by
    rw [IsWidened, ofPoint_false, contains_iff ambiguousTable_wellFormed]
    constructor
    · rintro ⟨hnarrow, -, hcovers⟩
      exact ⟨hnarrow, hcovers⟩
    · rintro ⟨hnarrow, hcovers⟩
      exact ⟨hnarrow, ambiguous_bound hcovers, hcovers⟩
  rw [ofPoint, ofPoint_false]
  simp only [true_and, hiff]

theorem columns_of_isWidened (h : IsWidened p) : (ofPoint false p).columns = some 1 :=
  congrArg columns h.1

/-- What widens takes one column more. -/
theorem columns_ofPoint_true (p : Nat) : (ofPoint true p).columns =
    (ofPoint false p).columns.map (· + if IsWidened p then 1 else 0) := by
  rw [ofPoint_true]
  by_cases h : IsWidened p
  · rw [if_pos h, if_pos h, columns_of_isWidened h]
    rfl
  · rw [if_neg h, if_neg h]
    exact Option.map_id'.symm

/-! ### Runs -/

variable {α : Type} {f g : α → Option Nat} {q : α → Prop} [DecidablePred q] {l : List α}

/-- If some elements take one column more, the run takes as many more as there are of them. -/
theorem total_add_countP (h : ∀ a ∈ l, g a = (f a).map (· + if q a then 1 else 0)) :
    total g l = (total f l).map (· + l.countP (q ·)) := by
  induction l with
  | nil => rfl
  | cons a l ih =>
    rw [total, total, h a (.head _), ih fun b hb => h b (.tail _ hb), List.countP_cons]
    cases f a with
    | none => rfl
    | some n =>
      cases total f l with
      | none => rfl
      | some m =>
        by_cases hq : q a <;> simp [hq] <;> omega

/-- A run takes at least as many columns as it has elements that take one. -/
theorem countP_le_total (h : ∀ a ∈ l, q a → f a = some 1) {n : Nat} (hn : total f l = some n) :
    l.countP (q ·) ≤ n := by
  induction l generalizing n with
  | nil => exact Nat.zero_le n
  | cons a l ih =>
    rw [total] at hn
    split at hn
    next k m hk hm =>
      cases hn
      have htail := ih (fun b hb => h b (.tail _ hb)) hm
      rw [List.countP_cons]
      by_cases hq : q a
      · have hone := (h a (.head _) hq).symm.trans hk
        cases hone
        simp [hq]
        omega
      · simp [hq]
        omega
    next => cases hn

/-- A run grows by one column for each code point before NUL that widens. -/
theorem ofRun_true (points : List Nat) : ofRun true points =
    (ofRun false points).map (· + (points.takeWhile (· ≠ 0)).countP (IsWidened ·)) :=
  total_add_countP fun p _ => columns_ofPoint_true p

/-- **What wide ambiguous characters do to a run.**  It has a width in the one case exactly if it
has one in the other.  If so, it is wider by one column for each code point before the first NUL
that is narrow and ambiguous; it does not shrink, and it at most doubles. -/
theorem ofRun_widened (points : List Nat) :
    (ofRun true points = none ↔ ofRun false points = none) ∧
    ∀ n, ofRun false points = some n → ∃ m, ofRun true points = some m ∧
      m = n + (points.takeWhile (· ≠ 0)).countP (IsWidened ·) ∧ n ≤ m ∧ m ≤ 2 * n := by
  rw [ofRun_true]
  refine ⟨Option.map_eq_none_iff, fun n hn => ⟨_, by rw [hn]; rfl, rfl, Nat.le_add_right _ _, ?_⟩⟩
  have hbound : (points.takeWhile (· ≠ 0)).countP (IsWidened ·) ≤ n :=
    countP_le_total (fun p _ => columns_of_isWidened) hn
  rw [Nat.two_mul]
  exact Nat.add_le_add_left hbound n

/-- Of a plus-minus sign, a mark, a soft hyphen and an ideograph the first and the third widen, and
what follows NUL does not count. -/
theorem ofRun_widened_overlap :
    let points := [0xB1, 0x300, 0xAD, 0x4E00, 0, 0xB1, 0x07]
    ofRun false points = some 4 ∧ ∃ m, ofRun true points = some m ∧ m = 4 + 2 ∧ m ≤ 2 * 4 := by
  intro points
  have hplain : ofRun false points = some 4 := by decide +kernel
  have hcount : (points.takeWhile (· ≠ 0)).countP (IsWidened ·) = 2 := by decide +kernel
  obtain ⟨m, hm, hmore, -, hle⟩ := (ofRun_widened points).2 4 hplain
  exact ⟨hplain, m, hm, hmore.trans (congrArg (4 + ·) hcount), hle⟩

end TerminalText.CellWidth
