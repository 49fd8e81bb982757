import Mathlib.Tactic.ByContra
import TerminalText.Proofs.Utf8.Table

/-!
# The head of bytes in UTF-8

`head` and the table of well-formed sequences say the same of a row of bytes:

* `head_wellFormed`: a well-formed sequence at the front is found, with its value, and
  `wellFormed_of_head` that nothing else is found;
* `head_eq_incomplete_iff`: bytes are held to be incomplete when they are empty or the beginning of
  a sequence;
* `head_take_malformed`: where `n` bytes are malformed, the bytes up to there may be a beginning,
  but with one byte more they are none.

What is found stays when more bytes arrive, unless the bytes were incomplete (`head_append`).
-/

namespace TerminalText.Utf8

/-! ### The bytes that follow -/

/-- The ranges of the bytes that `follow` takes. -/
def followers : (following low high : Nat) → List ByteRange
  | 0,     _,   _    => []
  | n + 1, low, high => ⟨low, high⟩ :: followers n 0x80 0xBF

/-- The bits that bytes add to those before them. -/
def gather (bits : Nat) (w : List UInt8) : Nat :=
  w.foldl (fun v b => v * 0x40 + (b.toNat - 0x80)) bits

/-- Once it is settled what follows, bytes behind it make no difference. -/
theorem follow_append {bits size n low high : Nat} {r : List UInt8} (t : List UInt8)
    (h : follow bits size n low high r ≠ .incomplete) :
    follow bits size n low high (r ++ t) = follow bits size n low high r := by
  induction r generalizing bits size n low high with
  | nil =>
    cases n with
    | zero   => simp only [follow]
    | succ n => exact absurd rfl h
  | cons b r ih =>
    cases n with
    | zero   => simp only [follow]
    | succ n =>
      simp only [follow, List.cons_append] at h ⊢
      split at h
      case isTrue hb  => rw [if_pos hb, if_pos hb, ih h]
      case isFalse hb => rw [if_neg hb, if_neg hb]

/-- Bytes within their ranges are all taken, and their bits are gathered. -/
theorem follow_fits {bits size n low high : Nat} {w : List UInt8}
    (h : Fits (followers n low high) w) (r : List UInt8) :
    follow bits size n low high (w ++ r) = .point (gather bits w) (size + w.length) := by
  induction w generalizing bits size n low high with
  | nil =>
    cases n with
    | zero   => simp only [follow, gather, List.foldl_nil, List.length_nil, Nat.add_zero]
    | succ n => exact h.elim
  | cons b w ih =>
    cases n with
    | zero   => exact h.elim
    | succ n =>
      obtain ⟨⟨hlow, hhigh⟩, hw⟩ := h
      rw [List.cons_append, follow, if_pos ⟨hlow, hhigh⟩, ih hw, gather, gather, List.foldl_cons,
        List.length_cons, Nat.add_assoc, Nat.add_comm 1]

/-- Where a code point was found, the bytes that follow lie within their ranges. -/
theorem fits_of_follow {bits size n low high p s : Nat} {r : List UInt8}
    (h : follow bits size n low high r = .point p s) :
    ∃ w t, r = w ++ t ∧ Fits (followers n low high) w := by
  induction r generalizing bits size n low high with
  | nil =>
    cases n with
    | zero   => exact ⟨[], [], rfl, trivial⟩
    | succ n => cases h
  | cons b r ih =>
    cases n with
    | zero   => exact ⟨[], b :: r, rfl, trivial⟩
    | succ n =>
      rw [follow] at h
      split at h
      case isTrue hb =>
        obtain ⟨w, t, rfl, hw⟩ := ih h
        exact ⟨b :: w, t, rfl, hb, hw⟩
      case isFalse => cases h

/-- Some bytes lie in the ranges, the least ones. -/
theorem exists_fits {n low high : Nat} (hr : low ≤ high) (hh : high < 0x100) :
    ∃ w, Fits (followers n low high) w := by
  induction n generalizing low high with
  | zero => exact ⟨[], trivial⟩
  | succ n ih =>
    obtain ⟨w, hw⟩ : ∃ w, Fits (followers n 0x80 0xBF) w := ih (by omega) (by omega)
    refine ⟨UInt8.ofNat low :: w, ?_, hw⟩
    rw [mem_byteRange, UInt8.toNat_ofNat']
    simp only
    omega

/-- What is incomplete can be completed. -/
theorem exists_completion {bits size n low high : Nat} {r : List UInt8} (hr : low ≤ high)
    (hh : high < 0x100) (h : follow bits size n low high r = .incomplete) :
    ∃ v ≠ [], Fits (followers n low high) (r ++ v) := by
  induction r generalizing bits size n low high with
  | nil =>
    cases n with
    | zero   => cases h
    | succ n =>
      obtain ⟨w, hw⟩ := exists_fits (n := n + 1) hr hh
      refine ⟨w, ?_, hw⟩
      rintro rfl
      exact hw
  | cons b r ih =>
    cases n with
    | zero   => cases h
    | succ n =>
      rw [follow] at h
      split at h
      case isTrue hb =>
        obtain ⟨v, hv, hf⟩ := ih (by omega) (by omega) h
        exact ⟨v, hv, hb, hf⟩
      case isFalse => cases h

/-- Where bytes turn out to be malformed: the ones before may have been a beginning, and the next
one decides. -/
theorem follow_take_malformed {bits size n low high s : Nat} {r : List UInt8}
    (h : follow bits size n low high r = .malformed s) :
    ∃ k, s = size + k ∧ follow bits size n low high (r.take k) = .incomplete ∧
      ∀ m, k < m → follow bits size n low high (r.take m) = .malformed s := by
  -- `k` counts the bytes taken before the one that lies out of its range
  induction r generalizing bits size n low high with
  | nil => cases n <;> cases h
  | cons b r ih =>
    cases n with
    | zero   => cases h
    | succ n =>
      rw [follow] at h
      split at h
      case isTrue hb =>
        obtain ⟨k, rfl, hk, hm⟩ := ih h
        refine ⟨k + 1, by omega, ?_, fun m hkm => ?_⟩
        · rw [List.take_succ_cons, follow, if_pos hb, hk]
        · obtain ⟨m, rfl⟩ : ∃ m', m = m' + 1 := ⟨m - 1, by omega⟩
          rw [List.take_succ_cons, follow, if_pos hb, hm m (by omega)]
      case isFalse hb =>
        cases h
        refine ⟨0, rfl, rfl, fun m hm => ?_⟩
        obtain ⟨m, rfl⟩ : ∃ m', m = m' + 1 := ⟨m - 1, by omega⟩
        rw [List.take_succ_cons, follow, if_neg hb]

/-! ### The first byte -/

theorem fits_nil_iff {w : List UInt8} : Fits [] w ↔ w = [] := by
  cases w <;> simp [Fits]

theorem exists_of_fits_cons {range : ByteRange} {row : List ByteRange} {w : List UInt8}
    (h : Fits (range :: row) w) : ∃ b v, w = b :: v ∧ b ∈ range ∧ Fits row v := by
  cases w with
  | nil => cases h
  | cons b v => exact ⟨b, v, rfl, h.1, h.2⟩

/-- What a lead byte says, by its range. -/
theorem lead?_eq_some_iff {b : UInt8} {l : Lead} : lead? b = some l ↔
    0xC2 ≤ b.toNat ∧ b.toNat ≤ 0xDF ∧ l = ⟨b.toNat - 0xC0, 1, 0x80, 0xBF⟩ ∨
    b.toNat = 0xE0 ∧ l = ⟨0x0, 2, 0xA0, 0xBF⟩ ∨
    (0xE1 ≤ b.toNat ∧ b.toNat ≤ 0xEC ∨ 0xEE ≤ b.toNat ∧ b.toNat ≤ 0xEF) ∧
      l = ⟨b.toNat - 0xE0, 2, 0x80, 0xBF⟩ ∨
    b.toNat = 0xED ∧ l = ⟨0xD, 2, 0x80, 0x9F⟩ ∨
    b.toNat = 0xF0 ∧ l = ⟨0, 3, 0x90, 0xBF⟩ ∨
    0xF1 ≤ b.toNat ∧ b.toNat ≤ 0xF3 ∧ l = ⟨b.toNat - 0xF0, 3, 0x80, 0xBF⟩ ∨
    b.toNat = 0xF4 ∧ l = ⟨4, 3, 0x80, 0x8F⟩ := by
  unfold lead?
  grind

/-- The first byte of a well-formed sequence stands alone, or is a lead byte that says what
follows. -/
theorem wellFormed_cons_iff {b : UInt8} {w : List UInt8} : WellFormed (b :: w) ↔
    b.toNat < 0x80 ∧ w = [] ∨
      ∃ l, lead? b = some l ∧ Fits (followers l.following l.low l.high) w := by
  simp only [lead?_eq_some_iff, or_and_right, exists_or, and_assoc, exists_and_left,
    exists_eq_left, followers, WellFormed, table, List.mem_cons, List.not_mem_nil, or_false, Fits,
    fits_nil_iff, mem_byteRange]
  constructor
  · rintro (h | h | h | h | h | h | h | h | h)
    all_goals grind
  · rintro (h | h | h | h | h | h | h | h)
    all_goals grind

/-- What the parts of a lead have to do with its byte and with each other. -/
theorem lead?_parts {b : UInt8} {l : Lead} (h : lead? b = some l) :
    (0x80 ≤ l.low ∧ l.low ≤ l.high ∧ l.high ≤ 0xBF) ∧
      (l.following = 1 ∧ l.bits = b.toNat % 0x20 ∨ l.following = 2 ∧ l.bits = b.toNat % 0x10 ∨
        l.following = 3 ∧ l.bits = b.toNat % 0x8) := by
  rcases lead?_eq_some_iff.mp h with ⟨h₁, h₂, rfl⟩ | ⟨h, rfl⟩ | ⟨h, rfl⟩ | ⟨h, rfl⟩ | ⟨h, rfl⟩ |
      ⟨h₁, h₂, rfl⟩ | ⟨h, rfl⟩
  all_goals simp only [true_and]; omega

/-- A byte that follows gives its six low bits. -/
theorem toNat_mod_of_mem {b : UInt8} {range : ByteRange} (h : b ∈ range) (hlow : 0x80 ≤ range.low)
    (hhigh : range.high ≤ 0xBF) : b.toNat % 0x40 = b.toNat - 0x80 := by
  rw [mem_byteRange] at h
  omega

theorem toNat_mod_of_mem_rest {b : UInt8} (h : b ∈ (⟨0x80, 0xBF⟩ : ByteRange)) :
    b.toNat % 0x40 = b.toNat - 0x80 := toNat_mod_of_mem h (Nat.le_refl _) (Nat.le_refl _)

/-- The value of a sequence is gathered from its bytes one by one. -/
theorem value_cons {b : UInt8} {w : List UInt8} {l : Lead} (hl : lead? b = some l)
    (hw : Fits (followers l.following l.low l.high) w) : value (b :: w) = gather l.bits w := by
  obtain ⟨⟨hlow, -, hhigh⟩, ⟨hn, hb⟩ | ⟨hn, hb⟩ | ⟨hn, hb⟩⟩ := lead?_parts hl
  all_goals rw [hn] at hw; rw [hb]; simp only [followers] at hw
  all_goals obtain ⟨c, w, rfl, hc, hw⟩ := exists_of_fits_cons hw
  -- only the first byte after the lead has a range of its own
  all_goals have hc := toNat_mod_of_mem hc hlow hhigh
  · obtain rfl := fits_nil_iff.mp hw
    rw [value, hc]
    rfl
  · obtain ⟨d, w, rfl, hd, hw⟩ := exists_of_fits_cons hw
    obtain rfl := fits_nil_iff.mp hw
    rw [value, hc, toNat_mod_of_mem_rest hd]
    rfl
  · obtain ⟨d, w, rfl, hd, hw⟩ := exists_of_fits_cons hw
    obtain ⟨e, w, rfl, he, hw⟩ := exists_of_fits_cons hw
    obtain rfl := fits_nil_iff.mp hw
    rw [value, hc, toNat_mod_of_mem_rest hd, toNat_mod_of_mem_rest he]
    rfl

/-! ### The head and the table -/

/-- What is found at the head stays when more bytes arrive. -/
theorem head_append {bs : List UInt8} (h : head bs ≠ .incomplete) (t : List UInt8) :
    head (bs ++ t) = head bs := by
  cases bs with
  | nil => exact absurd rfl h
  | cons b r =>
    simp only [head, List.cons_append] at h ⊢
    split at h
    case isTrue hb => rw [if_pos hb, if_pos hb]
    case isFalse hb =>
      rw [if_neg hb, if_neg hb]
      split at h
      · rfl
      · exact follow_append t h

/-- A well-formed sequence at the front is found. -/
theorem head_wellFormed {w : List UInt8} (h : WellFormed w) (r : List UInt8) :
    head (w ++ r) = .point (value w) w.length := by
  cases w with
  | nil => exact absurd (wellFormed_iff.mp h) (by simp)
  | cons b w =>
    rw [List.cons_append, head]
    rcases wellFormed_cons_iff.mp h with ⟨hb, rfl⟩ | ⟨l, hl, hw⟩
    · rw [if_pos hb]
      rfl
    · have hb : ¬ b.toNat < 0x80 := by
        have := lead?_eq_some_iff.mp hl
        omega
      rw [if_neg hb, hl, value_cons hl hw]
      simp only [follow_fits hw, List.length_cons, Nat.add_comm]

/-- What is found is a well-formed sequence. -/
theorem wellFormed_of_head {bs : List UInt8} {p n : Nat} (h : head bs = .point p n) :
    ∃ w r, bs = w ++ r ∧ WellFormed w ∧ p = value w ∧ n = w.length := by
  obtain ⟨w, r, rfl, hw⟩ : ∃ w r, bs = w ++ r ∧ WellFormed w := by
    cases bs with
    | nil => cases h
    | cons b r =>
      simp only [head] at h
      split at h
      case isTrue hb => exact ⟨[b], r, rfl, wellFormed_cons_iff.mpr (.inl ⟨hb, rfl⟩)⟩
      case isFalse hb =>
        split at h
        · cases h
        next l hl =>
          obtain ⟨w, t, rfl, hw⟩ := fits_of_follow h
          exact ⟨b :: w, t, rfl, wellFormed_cons_iff.mpr (.inr ⟨l, hl, hw⟩)⟩
  rw [head_wellFormed hw] at h
  cases h
  exact ⟨w, r, rfl, hw, rfl, rfl⟩

/-- Bytes are incomplete when there are none, or when more of them may complete a sequence. -/
theorem head_eq_incomplete_iff {bs : List UInt8} :
    head bs = .incomplete ↔ bs = [] ∨ Beginning bs := by
  constructor
  · intro h
    cases bs with
    | nil => exact .inl rfl
    | cons b r =>
      refine .inr ⟨List.cons_ne_nil b r, ?_⟩
      simp only [head] at h
      split at h
      · cases h
      split at h
      · cases h
      next l hl =>
        obtain ⟨⟨hlow, hle, hhigh⟩, -⟩ := lead?_parts hl
        obtain ⟨v, hv, hf⟩ := exists_completion hle (by omega) h
        exact ⟨v, hv, wellFormed_cons_iff.mpr (.inr ⟨l, hl, hf⟩)⟩
  · rintro (rfl | ⟨hbs, v, hv, hw⟩)
    · rfl
    · -- a sequence found before its end would be found within the bytes
      by_contra hne
      have hfound := head_wellFormed hw []
      rw [List.append_nil, head_append hne] at hfound
      have hle := (head_size_bounds hfound (by simp)).2
      rw [Head.size, List.length_append] at hle
      exact hv (List.length_eq_zero_iff.mp (by omega))

/-- Where `n` bytes are malformed, the bytes up to there may be a beginning, but with one byte more
they are none. -/
theorem head_take_malformed {bs : List UInt8} {n : Nat} (h : head bs = .malformed n) :
    (head (bs.take n) = .incomplete ∨ n = 1 ∧ head (bs.take 1) = .malformed 1) ∧
      ∀ m, n < m → head (bs.take m) = .malformed n := by
  cases bs with
  | nil => cases h
  | cons b r =>
    simp only [head] at h
    split at h
    · cases h
    next hb =>
      split at h
      next hl =>
        cases h
        have htake : ∀ m, head ((b :: r).take (m + 1)) = .malformed 1 := fun m => by
          rw [List.take_succ_cons, head, if_neg hb, hl]
        refine ⟨.inr ⟨rfl, htake 0⟩, fun m hm => ?_⟩
        obtain ⟨m, rfl⟩ : ∃ m', m = m' + 1 := ⟨m - 1, by omega⟩
        exact htake m
      next l hl =>
        obtain ⟨k, rfl, hk, hm⟩ := follow_take_malformed h
        refine ⟨.inl ?_, fun m hkm => ?_⟩
        · rw [Nat.add_comm, List.take_succ_cons, head, if_neg hb, hl]
          exact hk
        · obtain ⟨m, rfl⟩ : ∃ m', m = m' + 1 := ⟨m - 1, by omega⟩
          rw [List.take_succ_cons, head, if_neg hb, hl]
          exact hm m (by omega)

end TerminalText.Utf8
