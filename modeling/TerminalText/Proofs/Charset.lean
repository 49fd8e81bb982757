import TerminalText.Charset
import TerminalText.CodePoint

/-!
# Charsets are one to one

In a single-byte charset no two bytes show the same code point, and none of the upper half shows
ASCII (`Distinct`).  So `point?` and `byte?` are inverse to each other where they are defined
(`byte?_eq_some_iff`), although `byte?` looks for the first place of the table only.

Two of the code points are told apart from the bytes alone: NUL is shown by the byte zero only
(`point?_eq_zero_iff`), and font bytes by none (`lt_fontBase_of_point?`).
-/

namespace TerminalText.Charset

namespace HighHalf

/-- No code point stands twice in the table, and no ASCII stands in it. -/
def Distinct (t : HighHalf) : Prop :=
  t.toList.Pairwise (fun q p => q = 0 ∨ q ≠ p) ∧ ∀ q ∈ t.toList, q = 0 ∨ 0x80 ≤ q

/-- Whether no code point comes twice; the bits of `seen` are those that came before. -/
def unseen (seen : Nat) : List Nat → Bool
  | []     => true
  | q :: r => (q = 0 || !seen.testBit q) && unseen (seen ||| 1 <<< q) r

/-- One pass over the table finds whether a code point comes twice. -/
theorem pairwise_of_unseen {seen : Nat} {l : List Nat} (h : unseen seen l = true) :
    (∀ q ∈ l, q = 0 ∨ seen.testBit q = false) ∧ l.Pairwise (fun q p => q = 0 ∨ q ≠ p) := by
  induction l generalizing seen with
  | nil => exact ⟨nofun, .nil⟩
  | cons q r ih =>
    simp only [unseen, Bool.and_eq_true, Bool.or_eq_true, decide_eq_true_eq,
      Bool.not_eq_true'] at h
    obtain ⟨hq, hr⟩ := h
    obtain ⟨hseen, hpair⟩ := ih hr
    simp only [Nat.testBit_or, Bool.or_eq_false_iff] at hseen
    refine ⟨fun p hp => ?_, .cons (fun p hp => ?_) hpair⟩
    · rcases List.mem_cons.mp hp with rfl | hp
      · exact hq
      · exact (hseen p hp).imp_right And.left
    · by_cases h₀ : q = 0
      · exact .inl h₀
      refine .inr ?_
      rintro rfl
      rcases hseen q hp with h | ⟨-, h⟩
      · exact h₀ h
      · simp [Nat.one_shiftLeft, Nat.testBit_two_pow_self] at h

theorem distinct_of_unseen {t : HighHalf} (h : unseen 0 t.toList = true)
    (hlow : ∀ q ∈ t.toList, q = 0 ∨ 0x80 ≤ q) : t.Distinct :=
  ⟨(pairwise_of_unseen h).2, hlow⟩

/-- A place of the high half shows what stands there, unless nothing does. -/
theorem point?_eq_some_iff {t : HighHalf} {k p : Nat} :
    t.point? k = some p ↔ ∃ h : k < 128, t[k] = p ∧ p ≠ 0 := by
  simp only [point?, Option.filter_eq_some_iff, Vector.getElem?_eq_some_iff, decide_eq_true_eq]
  exact ⟨fun ⟨⟨h, e⟩, hp⟩ => ⟨h, e, hp⟩, fun ⟨h, e, hp⟩ => ⟨⟨h, e⟩, hp⟩⟩

/-- The first place of a code point is its only one. -/
theorem place?_eq_some_iff {t : HighHalf} (ht : t.Distinct) {k p : Nat} :
    t.place? p = some k ↔ t.point? k = some p := by
  rw [point?_eq_some_iff, place?, Array.findIdx?_eq_some_iff_getElem]
  simp only [Vector.size_toArray, Vector.getElem_toArray, decide_eq_true_eq]
  constructor
  · rintro ⟨hk, ⟨h₀, rfl⟩, -⟩
    exact ⟨hk, rfl, h₀⟩
  · rintro ⟨hk, rfl, h₀⟩
    refine ⟨hk, ⟨h₀, rfl⟩, fun j hj => ?_⟩
    have hpair := List.pairwise_iff_getElem.mp ht.1 j k (by simp; omega) (by simpa using hk) hj
    simp only [Vector.getElem_toList] at hpair
    omega

/-- Nothing of ASCII stands in the table. -/
theorem le_of_point? {t : HighHalf} (ht : t.Distinct) {k p : Nat} (h : t.point? k = some p) :
    0x80 ≤ p := by
  obtain ⟨hk, rfl, h₀⟩ := point?_eq_some_iff.mp h
  have := ht.2 t[k] (by simp)
  omega

end HighHalf

/-- No charset has a code point twice in its high half. -/
theorem distinct_of_highHalf? {c : Charset} {t : HighHalf} (h : c.highHalf? = some t) :
    t.Distinct := by
  cases c <;> cases h <;>
    exact HighHalf.distinct_of_unseen (by decide +kernel) (by decide +kernel)

theorem ofNat_eq_iff {n : Nat} (hn : n < 0x100) {b : UInt8} : UInt8.ofNat n = b ↔ n = b.toNat := by
  rw [← UInt8.toNat_inj, UInt8.toNat_ofNat', Nat.mod_eq_of_lt hn]

/-- The byte of a place of the table shows what stands there. -/
theorem place?_byte_iff {t : HighHalf} (ht : t.Distinct) {p : Nat} {b : UInt8}
    (hb : 0x80 ≤ b.toNat) :
    (∃ k, t.place? p = some k ∧ UInt8.ofNat (0x80 + k) = b) ↔
      t.point? (b.toNat - 0x80) = some p := by
  simp only [HighHalf.place?_eq_some_iff ht]
  constructor
  · rintro ⟨k, hk, hkb⟩
    obtain ⟨hlt, -⟩ := HighHalf.point?_eq_some_iff.mp hk
    have hk' : 0x80 + k = b.toNat := (ofNat_eq_iff (by omega)).mp hkb
    rwa [← hk', Nat.add_sub_cancel_left]
  · intro h
    have hlt := b.toNat_lt
    exact ⟨b.toNat - 0x80, h, (ofNat_eq_iff (by omega)).mpr (by omega)⟩

/-- No place of the table has a byte of ASCII. -/
theorem place?_byte_ge {t : HighHalf} (ht : t.Distinct) {p k : Nat} (h : t.place? p = some k) :
    0x80 ≤ (UInt8.ofNat (0x80 + k)).toNat := by
  obtain ⟨hk, -⟩ := HighHalf.point?_eq_some_iff.mp ((HighHalf.place?_eq_some_iff ht).mp h)
  rw [UInt8.toNat_ofNat', Nat.mod_eq_of_lt (by omega)]
  exact Nat.le_add_right _ _

/-- A byte is that of a code point if and only if it shows it. -/
theorem byte?_eq_some_iff {c : Charset} {p : Nat} {b : UInt8} :
    c.byte? p = some b ↔ c.point? b = some p := by
  cases ht : c.highHalf? with
  | none =>
    -- without a table every byte stands for the code point of its number
    simp only [byte?, point?, ht, ite_self]
    by_cases hp : p < 0x100
    · rw [if_pos hp, ite_self, Option.some.injEq, Option.some.injEq, ofNat_eq_iff hp, eq_comm]
    · have hb := b.toNat_lt
      rw [if_neg hp, if_neg (by omega), Option.some.injEq]
      exact iff_of_false (Option.some_ne_none b).symm (by omega)
  | some t =>
    have hd := distinct_of_highHalf? ht
    simp only [byte?, point?, ht]
    -- ASCII stands for itself on either side, and the upper half shows none of it
    by_cases hp : p < 0x80
    · rw [if_pos hp, Option.some.injEq, ofNat_eq_iff (by omega)]
      by_cases hb : b.toNat < 0x80
      · rw [if_pos hb, Option.some.injEq, eq_comm]
      · rw [if_neg hb]
        refine ⟨by omega, fun h => ?_⟩
        have := HighHalf.le_of_point? hd h
        omega
    · rw [if_neg hp, Option.map_eq_some_iff]
      by_cases hb : b.toNat < 0x80
      · rw [if_pos hb, Option.some.injEq]
        refine ⟨?_, by omega⟩
        rintro ⟨k, hk, rfl⟩
        exact absurd hb (Nat.not_lt.mpr (place?_byte_ge hd hk))
      · rw [if_neg hb]
        exact place?_byte_iff hd (Nat.not_lt.mp hb)

/-! ### Code points apart -/

/-- Zero is shown by the byte zero, and by no other. -/
theorem point?_eq_zero_iff {c : Charset} {b : UInt8} : c.point? b = some 0 ↔ b = 0 := by
  rw [← byte?_eq_some_iff]
  show some (UInt8.ofNat 0) = some b ↔ b = 0
  rw [Option.some.injEq, eq_comm]
  rfl

theorem lt_fontBase_of_mem {c : Charset} {t : HighHalf} (h : c.highHalf? = some t) :
    ∀ q ∈ t.toList, q < CodePoint.fontBase := by
  cases c <;> cases h <;> decide +kernel

/-- No byte of a charset shows a font byte. -/
theorem lt_fontBase_of_point? {c : Charset} {b : UInt8} {p : Nat} (h : c.point? b = some p) :
    p < CodePoint.fontBase := by
  have hb : b.toNat < CodePoint.fontBase := Nat.lt_trans b.toNat_lt (by decide)
  rw [point?] at h
  split at h
  case isTrue => exact Option.some.inj h ▸ hb
  case isFalse =>
    split at h
    next     => exact Option.some.inj h ▸ hb
    next t ht =>
      obtain ⟨hk, rfl, -⟩ := HighHalf.point?_eq_some_iff.mp h
      exact lt_fontBase_of_mem ht _ (by simp)

end TerminalText.Charset
