/-!
# Ranges of code points

An `Interval` is an inclusive range, and a `RangeTable` is a row of them.  `RangeTable.contains`
finds a code point by halving the table; `RangeTable.Covers` says what it looks for, that some
range of the table holds the point.

* `contains_sound`: whatever the table, a point that is found is covered.
* `WellFormed` tables, whose ranges ascend without overlap, are the ones the search is made for.
-/

namespace TerminalText

/-- An inclusive range of code points. -/
structure Interval where
  first : Nat
  last : Nat
  deriving DecidableEq, Repr

namespace Interval

instance : Membership Nat Interval where
  mem i p := i.first ≤ p ∧ p ≤ i.last

theorem mem_def {p : Nat} {i : Interval} : p ∈ i ↔ i.first ≤ p ∧ p ≤ i.last := Iff.rfl

instance (p : Nat) (i : Interval) : Decidable (p ∈ i) :=
  inferInstanceAs (Decidable (i.first ≤ p ∧ p ≤ i.last))

end Interval

/-- A row of ranges. -/
abbrev RangeTable := Array Interval

namespace RangeTable

/-- Some range of the table holds the point. -/
def Covers (t : RangeTable) (p : Nat) : Prop := ∃ i ∈ t, p ∈ i

instance (t : RangeTable) (p : Nat) : Decidable (t.Covers p) :=
  inferInstanceAs (Decidable (∃ i ∈ t, p ∈ i))

/-- Each range ends before the next begins. -/
def Ascending : List Interval → Prop
  | []          => True
  | [_]         => True
  | i :: j :: r => i.last < j.first ∧ Ascending (j :: r)

instance decideAscending : (r : List Interval) → Decidable (Ascending r)
  | []          => isTrue trivial
  | [_]         => isTrue trivial
  | i :: j :: r =>
    have := decideAscending (j :: r)
    inferInstanceAs (Decidable (i.last < j.first ∧ Ascending (j :: r)))

/-- No range is empty, and each ends before the next begins. -/
def WellFormed (t : RangeTable) : Prop :=
  (∀ i ∈ t, i.first ≤ i.last) ∧ Ascending t.toList

instance (t : RangeTable) : Decidable t.WellFormed :=
  inferInstanceAs (Decidable ((∀ i ∈ t, i.first ≤ i.last) ∧ Ascending t.toList))

/-- The place of the first range that holds the point. -/
def firstMatch (t : RangeTable) (p : Nat) : Option Nat := t.findIdx? (p ∈ ·)

/-! ### Halving -/

/-- Looks for `p` in the ranges from `lo` up to and without `hi`, in the half that the middle
range leaves. -/
def searchWithin (t : RangeTable) (p : Nat) (lo hi : Nat) (hhi : hi ≤ t.size) : Bool :=
  if h : lo < hi then
    let mid := lo + (hi - lo) / 2
    have hmid : mid < t.size := by omega
    if t[mid].last < p then searchWithin t p (mid + 1) hi hhi
    else if p < t[mid].first then searchWithin t p lo mid (Nat.le_of_lt hmid)
    else true
  else false
termination_by hi - lo

/-- Looks for `p` in the table; a point outside the span from the first range's start to the last
range's end is not looked for. -/
def contains (t : RangeTable) (p : Nat) : Bool :=
  match t[0]?, t.back? with
  | some lowest, some highest =>
    if p < lowest.first ∨ highest.last < p then false
    else searchWithin t p 0 t.size (Nat.le_refl _)
  | _, _ => false

/-- A point found between `lo` and `hi` lies in a range of the table. -/
theorem searchWithin_sound {t : RangeTable} {p : Nat} {lo hi : Nat} {hhi : hi ≤ t.size}
    (h : t.searchWithin p lo hi hhi = true) : t.Covers p := by
  fun_induction searchWithin t p lo hi hhi with
  | case1 _ _ _ _ _ _ _ ih => exact ih h
  | case2 _ _ _ _ _ _ _ _ ih => exact ih h
  | case3 lo hi _ _ mid hmid hlast hfirst =>
    exact ⟨t[mid], Array.getElem_mem hmid, Nat.le_of_not_lt hfirst, Nat.le_of_not_lt hlast⟩
  | case4 => simp at h

/-- Whatever the table, a point that is found is covered. -/
theorem contains_sound {t : RangeTable} {p : Nat} (h : t.contains p = true) :
    t.Covers p := by
  unfold contains at h
  split at h
  · split at h
    · simp at h
    · exact searchWithin_sound h
  · simp at h

end RangeTable

end TerminalText
