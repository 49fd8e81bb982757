import TerminalText.Proofs.Codepage.Stream

/-!
# Replacing maximal subparts

What a stream of UTF-8 stands for, said without a decoder (`Substituted`): well-formed sequences are
taken for their values, a beginning that ends the bytes waits, and one U+FFFD stands for the longest
beginning at the front of anything else, or for one byte if there is none.

`substituted_iff_read` says that this is what `Codepage.read` gives.
-/

namespace TerminalText.Utf8

/-- No well-formed sequence stands at the front of the bytes. -/
def NoSequence (bs : List UInt8) : Prop := ∀ w, w <+: bs → ¬ WellFormed w

/-- `w` is the longest beginning of a sequence at the front of the bytes. -/
def LongestBeginning (bs w : List UInt8) : Prop :=
  w <+: bs ∧ Beginning w ∧ ∀ v, v <+: bs → Beginning v → v.length ≤ w.length

/-- The bytes stand for the code points, and the last of them wait for more. -/
inductive Substituted : List UInt8 → List Nat → List UInt8 → Prop where
  | nil : Substituted [] [] []
  | sequence {w r : List UInt8} {ps : List Nat} {held : List UInt8} (hw : WellFormed w)
      (t : Substituted r ps held) : Substituted (w ++ r) (value w :: ps) held
  | beginning {bs : List UInt8} (hn : NoSequence bs) (hb : Beginning bs) : Substituted bs [] bs
  | subpart {w r : List UInt8} {ps : List Nat} {held : List UInt8} (hn : NoSequence (w ++ r))
      (hb : ¬ Beginning (w ++ r)) (hw : LongestBeginning (w ++ r) w) (t : Substituted r ps held) :
      Substituted (w ++ r) (CodePoint.replacement :: ps) held
  | byte {b : UInt8} {r : List UInt8} {ps : List Nat} {held : List UInt8}
      (hn : NoSequence (b :: r)) (hb : ∀ v, v <+: b :: r → ¬ Beginning v)
      (t : Substituted r ps held) : Substituted (b :: r) (CodePoint.replacement :: ps) held

/-! ### What the head says of the beginnings -/

/-- No sequence begins the bytes exactly if no code point stands at their head. -/
theorem noSequence_iff {bs : List UInt8} : NoSequence bs ↔ ∀ p n, head bs ≠ .point p n := by
  constructor
  · intro hn p n h
    obtain ⟨w, r, rfl, hw, -⟩ := wellFormed_of_head h
    exact hn w (List.prefix_append w r) hw
  · rintro h w ⟨r, rfl⟩ hw
    exact h _ _ (head_wellFormed hw r)

/-- The beginning of a sequence is incomplete. -/
theorem head_beginning {bs : List UInt8} (h : Beginning bs) : head bs = .incomplete :=
  head_eq_incomplete_iff.mpr (.inr h)

/-- What is malformed is the longest beginning at the front, or one byte that begins nothing. -/
theorem longestBeginning_of_malformed {bs : List UInt8} {n : Nat}
    (h : Codepage.utf8.head bs = .malformed n) :
    LongestBeginning bs (bs.take n) ∨ n = 1 ∧ ∀ v, v <+: bs → ¬ Beginning v := by
  obtain ⟨hn₀, hn⟩ := Codepage.size_bounds_of_malformed h
  obtain ⟨hbegin | ⟨rfl, hone⟩, hlong⟩ := head_take_malformed h
  · refine .inl ⟨List.take_prefix n bs, ?_, fun v hv hb => ?_⟩
    · refine (head_eq_incomplete_iff.mp hbegin).resolve_left fun hnil => ?_
      have := congrArg List.length hnil
      rw [List.length_take, List.length_nil] at this
      omega
    · rw [List.length_take, Nat.min_eq_left hn]
      by_contra hlt
      have hv' := hlong v.length (by omega)
      rw [← List.prefix_iff_eq_take.mp hv, head_beginning hb] at hv'
      cases hv'
  · refine .inr ⟨rfl, fun v hv hb => ?_⟩
    have hmal : head v = .malformed 1 := by
      rw [List.prefix_iff_eq_take.mp hv]
      rcases Nat.lt_or_ge 1 v.length with hlt | hle
      · exact hlong _ hlt
      · have hlen := List.length_pos_iff.mpr hb.1
        rw [show v.length = 1 by omega]
        exact hone
    rw [head_beginning hb] at hmal
    cases hmal

/-- There is only one longest beginning. -/
theorem LongestBeginning.length_eq {bs v w : List UInt8} (hv : LongestBeginning bs v)
    (hw : LongestBeginning bs w) : v.length = w.length :=
  Nat.le_antisymm (hw.2.2 v hv.1 hv.2.1) (hv.2.2 w hw.1 hw.2.1)

/-- Bytes at whose front there is no sequence, and that are no beginning, are malformed. -/
theorem exists_malformed {bs : List UInt8} (hbs : bs ≠ []) (hn : NoSequence bs)
    (hb : ¬ Beginning bs) : ∃ n, Codepage.utf8.head bs = .malformed n := by
  cases h : Codepage.utf8.head bs with
  | point p n   => exact absurd h (noSequence_iff.mp hn p n)
  | incomplete  => exact absurd (head_eq_incomplete_iff.mp h) (not_or.mpr ⟨hbs, hb⟩)
  | malformed n => exact ⟨n, rfl⟩

/-! ### The reading of a stream -/

/-- What a stream is read as is what its bytes stand for. -/
theorem substituted_read (bs : List UInt8) :
    Substituted bs (Codepage.utf8.read bs).points (Codepage.utf8.read bs).held := by
  -- what stands at the head of the bytes decides which rule applies
  induction bs using Codepage.head_induction .utf8 with
  | point bs p k h ih =>
    obtain ⟨w, r, rfl, hw, rfl, rfl⟩ := wellFormed_of_head h
    rw [List.drop_left] at ih
    rw [Codepage.read_of_point h, List.drop_left]
    exact .sequence hw ih
  | malformed bs k h ih =>
    have hk := (Codepage.size_bounds_of_malformed h).2
    obtain ⟨w, r, rfl, rfl⟩ : ∃ w r, bs = w ++ r ∧ k = w.length :=
      ⟨bs.take k, bs.drop k, (List.take_append_drop k bs).symm,
        by rw [List.length_take, Nat.min_eq_left hk]⟩
    have hn : NoSequence (w ++ r) := noSequence_iff.mpr fun p m hp => by
      have := h.symm.trans hp
      cases this
    have hb : ¬ Beginning (w ++ r) := fun hb => by
      have := h.symm.trans (head_beginning hb)
      cases this
    rw [List.drop_left] at ih
    rw [Codepage.read_of_malformed h, List.drop_left]
    rcases longestBeginning_of_malformed h with hlong | ⟨hone, hnone⟩
    · rw [List.take_left] at hlong
      exact .subpart hn hb hlong ih
    · obtain ⟨b, rfl⟩ := List.length_eq_one_iff.mp hone
      exact .byte hn hnone ih
  | incomplete bs h =>
    rw [Codepage.read_of_incomplete h]
    rcases head_eq_incomplete_iff.mp h with rfl | hb
    · exact .nil
    · refine .beginning (noSequence_iff.mpr fun p m hp => ?_) hb
      have := h.symm.trans hp
      cases this

/-- Whatever the rules allow is what is read. -/
theorem read_of_substituted {bs : List UInt8} {ps : List Nat} {held : List UInt8}
    (h : Substituted bs ps held) : Codepage.utf8.read bs = ⟨ps, held⟩ := by
  induction h with
  | nil => exact Codepage.read_of_incomplete rfl
  | @sequence w r ps held hw _ ih =>
    have h : Codepage.utf8.head (w ++ r) = _ := head_wellFormed hw r
    rw [Codepage.read_of_point h, List.drop_left, ih]
    rfl
  | beginning _ hb => exact Codepage.read_of_incomplete (head_beginning hb)
  | @subpart w r ps held hn hb hw _ ih =>
    obtain ⟨k, h⟩ := exists_malformed (by simp [hw.2.1.1]) hn hb
    have hk : k = w.length := by
      rcases longestBeginning_of_malformed h with hlong | ⟨-, hnone⟩
      · rw [← hlong.length_eq hw, List.length_take,
          Nat.min_eq_left (Codepage.size_bounds_of_malformed h).2]
      · exact absurd hw.2.1 (hnone w hw.1)
    rw [Codepage.read_of_malformed h, hk, List.drop_left, ih]
    rfl
  | @byte b r ps held hn hb _ ih =>
    obtain ⟨k, h⟩ := exists_malformed (List.cons_ne_nil b r) hn (hb _ List.prefix_rfl)
    have hk : k = 1 := by
      rcases longestBeginning_of_malformed h with hlong | ⟨hk, -⟩
      · exact absurd hlong.2.1 (hb _ hlong.1)
      · exact hk
    rw [Codepage.read_of_malformed h, hk]
    exact congrArg (Reading.cons _) ih

/-- A stream is read as what its bytes stand for, and as nothing else. -/
theorem substituted_iff_read {bs : List UInt8} {ps : List Nat} {held : List UInt8} :
    Substituted bs ps held ↔ Codepage.utf8.read bs = ⟨ps, held⟩ := by
  refine ⟨read_of_substituted, fun h => ?_⟩
  have := substituted_read bs
  rwa [h] at this

end TerminalText.Utf8
