import TerminalText.Proofs.CellWidth
import TerminalText.Proofs.Interval

/-!
# Widths and classes

What width a code point has is a matter of the classes of the Unicode data that it belongs to, and
of the order in which they are asked (`byClass`).  `CellWidth.plain` asks less: it searches its
tables by halves, and it does not search them at all where the number of the code point settles its
width.

The search is right because the tables are well-formed.  The numbers are right because of where the
classes begin: no mark is below U+0300 but U+00AD SOFT HYPHEN (`combining_bound`), and nothing below
U+1100 is wide (`wide_bound`).  So the two agree at every other code point (`ofPoint_eq_byClass`).
-/

namespace TerminalText.CellWidth

open RangeTable (contains_iff covers_iff_toList wellFormed_iff_toList)

/-- The width of a code point by the classes it belongs to, where ambiguous characters are
narrow. -/
def byClass (p : Nat) : CellWidth :=
  if p = 0 then zero
  else if IsControl p then invalid
  else if combiningTable.Covers p ∨ IsJamoTail p then zero
  else if wideTable.Covers p then wide
  else narrow

/-! ### The tables -/

theorem combiningTable_wellFormed : combiningTable.WellFormed :=
  wellFormed_iff_toList.mpr (by decide +kernel)

theorem wideTable_wellFormed : wideTable.WellFormed :=
  wellFormed_iff_toList.mpr (by decide +kernel)

variable {p : Nat}

/-- The soft hyphen stands alone among the marks, before all others. -/
theorem combining_bound (h : combiningTable.Covers p) : p = 0xAD ∨ 0x300 ≤ p := by
  have hrows : ∀ i ∈ combiningTable.toList, i = ⟨0xAD, 0xAD⟩ ∨ 0x300 ≤ i.first := by
    decide +kernel
  obtain ⟨i, hi, hp⟩ := covers_iff_toList.mp h
  rw [Interval.mem_def] at hp
  rcases hrows i hi with rfl | hfirst
  · exact .inl (Nat.le_antisymm hp.2 hp.1)
  · exact .inr (Nat.le_trans hfirst hp.1)

/-- The initial consonants of Hangul are the first wide characters. -/
theorem wide_bound (h : wideTable.Covers p) : 0x1100 ≤ p := by
  have hrows : ∀ i ∈ wideTable.toList, 0x1100 ≤ i.first := by decide +kernel
  obtain ⟨i, hi, hp⟩ := covers_iff_toList.mp h
  exact Nat.le_trans (hrows i hi) hp.1

/-! ### The shortcuts -/

/-- Below U+0300 the number settles the width. -/
theorem plain_eq_byClass_of_lt (hp : p < 0x300) (hsoft : p ≠ 0xAD) : plain p = byClass p := by
  have hzero : ¬ (combiningTable.Covers p ∨ IsJamoTail p) := by
    rintro (hc | hj)
    · exact (combining_bound hc).elim hsoft (Nat.not_le.mpr hp)
    · exact Nat.not_le.mpr hp (Nat.le_trans (by decide) hj.1)
  have hwide : ¬ wideTable.Covers p := fun hw => by
    have := wide_bound hw
    omega
  rw [plain, if_pos hp, byClass, if_neg hzero, if_neg hwide]

/-- From U+0300 on the tables settle it, those of wide characters and of Hangul only from U+1100. -/
theorem plain_eq_byClass_of_le (hp : 0x300 ≤ p) : plain p = byClass p := by
  have hne : p ≠ 0 := by omega
  have hcontrol : ¬ IsControl p := fun hc => by
    have := lt_of_isControl hc
    omega
  rw [plain, if_neg (Nat.not_lt.mpr hp), byClass, if_neg hne, if_neg hcontrol]
  simp only [contains_iff combiningTable_wellFormed, contains_iff wideTable_wellFormed]
  by_cases hc : combiningTable.Covers p
  · rw [if_pos hc, if_pos (.inl hc)]
  by_cases hlow : p < 0x1100
  · have hjamo : ¬ IsJamoTail p := fun hj => Nat.not_le.mpr hlow (Nat.le_trans (by decide) hj.1)
    have hwide : ¬ wideTable.Covers p := fun hw => Nat.not_le.mpr hlow (wide_bound hw)
    rw [if_neg hc, if_pos hlow, if_neg (not_or.mpr ⟨hc, hjamo⟩), if_neg hwide]
  · rw [if_neg hc, if_neg hlow]
    simp only [hc, false_or]

/-- **The shortcuts change nothing but the soft hyphen.**  The width of a code point, where
ambiguous characters are narrow, is the one that the classes give it, each asked as a set; but
U+00AD, a mark, is narrow. -/
theorem ofPoint_eq_byClass :
    (∀ p, p ≠ 0xAD → ofPoint false p = byClass p) ∧
      combiningTable.Covers 0xAD ∧ ofPoint false 0xAD = narrow := by
  refine ⟨fun p hsoft => ?_, covers_iff_toList.mpr (by decide +kernel), rfl⟩
  rw [ofPoint_false]
  rcases Nat.lt_or_ge p 0x300 with hp | hp
  · exact plain_eq_byClass_of_lt hp hsoft
  · exact plain_eq_byClass_of_le hp

/-- A mark among the wide characters takes no cell. -/
theorem ofPoint_eq_byClass_overlap : 0x3099 ≠ 0xAD ∧ ofPoint false 0x3099 = zero ∧
    combiningTable.Covers 0x3099 ∧ wideTable.Covers 0x3099 := by
  have hcombining : combiningTable.Covers 0x3099 := covers_iff_toList.mpr (by decide +kernel)
  have hwide : wideTable.Covers 0x3099 := covers_iff_toList.mpr (by decide +kernel)
  have hwidth := ofPoint_eq_byClass.1 0x3099 (by decide)
  refine ⟨by decide, hwidth.trans ?_, hcombining, hwide⟩
  rw [byClass, if_neg (by decide), if_neg (by decide), if_pos (.inl hcombining)]

end TerminalText.CellWidth
