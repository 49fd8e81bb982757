import TerminalText.Utf8

/-!
# The well-formed sequences of UTF-8

The Unicode Standard lists the well-formed sequences in nine rows (its table 3-7): a row gives for
each byte the range it lies in.  `table` is that list, and `WellFormed w` says that the bytes `w`
fit one of its rows.  `value` reads the bits of a sequence (table 3-6).

The table and `encode` describe the same thing: `encode` and `value` are inverse to each other
between the scalar values and the well-formed sequences (`encode_value`, `wellFormed_encode`).

`Beginning bs` says that `bs` is not empty and that more bytes may complete it to a well-formed
sequence.
-/

namespace TerminalText.Utf8

open CodePoint (IsScalar)

/-- The bytes that may stand at one place of a sequence. -/
structure ByteRange where
  low : Nat
  high : Nat
  deriving DecidableEq, Repr

instance : Membership UInt8 ByteRange where
  mem r b := r.low ≤ b.toNat ∧ b.toNat ≤ r.high

theorem mem_byteRange {b : UInt8} {r : ByteRange} : b ∈ r ↔ r.low ≤ b.toNat ∧ b.toNat ≤ r.high :=
  Iff.rfl

instance (b : UInt8) (r : ByteRange) : Decidable (b ∈ r) :=
  inferInstanceAs (Decidable (r.low ≤ b.toNat ∧ b.toNat ≤ r.high))

/-- Each byte lies in the range at its place, and there are as many of them as ranges. -/
def Fits : List ByteRange → List UInt8 → Prop
  | [],       []     => True
  | r :: row, b :: w => b ∈ r ∧ Fits row w
  | _,        _      => False

/-- The well-formed sequences, by the ranges of their bytes. -/
def table : List (List ByteRange) :=
  [[⟨0x00, 0x7F⟩],
   [⟨0xC2, 0xDF⟩, ⟨0x80, 0xBF⟩],
   [⟨0xE0, 0xE0⟩, ⟨0xA0, 0xBF⟩, ⟨0x80, 0xBF⟩],
   [⟨0xE1, 0xEC⟩, ⟨0x80, 0xBF⟩, ⟨0x80, 0xBF⟩],
   [⟨0xED, 0xED⟩, ⟨0x80, 0x9F⟩, ⟨0x80, 0xBF⟩],
   [⟨0xEE, 0xEF⟩, ⟨0x80, 0xBF⟩, ⟨0x80, 0xBF⟩],
   [⟨0xF0, 0xF0⟩, ⟨0x90, 0xBF⟩, ⟨0x80, 0xBF⟩, ⟨0x80, 0xBF⟩],
   [⟨0xF1, 0xF3⟩, ⟨0x80, 0xBF⟩, ⟨0x80, 0xBF⟩, ⟨0x80, 0xBF⟩],
   [⟨0xF4, 0xF4⟩, ⟨0x80, 0x8F⟩, ⟨0x80, 0xBF⟩, ⟨0x80, 0xBF⟩]]

/-- The bytes are one well-formed sequence. -/
def WellFormed (w : List UInt8) : Prop := ∃ row ∈ table, Fits row w

/-- The bits of a sequence: those of the first byte below its mark, and six of each byte after
it. -/
def value : List UInt8 → Nat
  | [a]          => a.toNat
  | [a, b]       => a.toNat % 0x20 * 0x40 + b.toNat % 0x40
  | [a, b, c]    => (a.toNat % 0x10 * 0x40 + b.toNat % 0x40) * 0x40 + c.toNat % 0x40
  | [a, b, c, d] =>
    ((a.toNat % 0x8 * 0x40 + b.toNat % 0x40) * 0x40 + c.toNat % 0x40) * 0x40 + d.toNat % 0x40
  | _            => 0

/-- The bytes are the beginning of a well-formed sequence, and not all of it. -/
def Beginning (bs : List UInt8) : Prop := bs ≠ [] ∧ ∃ v ≠ [], WellFormed (bs ++ v)

/-! ### Sequences by their length -/

/-- Any byte but the first of a sequence. -/
def IsFollower (b : UInt8) : Prop := 0x80 ≤ b.toNat ∧ b.toNat ≤ 0xBF

/-- The rows of the table, brought together by their length. -/
theorem wellFormed_iff {w : List UInt8} : WellFormed w ↔
    (∃ a, w = [a] ∧ a.toNat < 0x80) ∨
    (∃ a b, w = [a, b] ∧ 0xC2 ≤ a.toNat ∧ a.toNat < 0xE0 ∧ IsFollower b) ∨
    (∃ a b c, w = [a, b, c] ∧ 0xE0 ≤ a.toNat ∧ a.toNat < 0xF0 ∧ IsFollower b ∧ IsFollower c ∧
      (a.toNat = 0xE0 → 0xA0 ≤ b.toNat) ∧ (a.toNat = 0xED → b.toNat < 0xA0)) ∨
    (∃ a b c d, w = [a, b, c, d] ∧ 0xF0 ≤ a.toNat ∧ a.toNat ≤ 0xF4 ∧ IsFollower b ∧
      IsFollower c ∧ IsFollower d ∧
      (a.toNat = 0xF0 → 0x90 ≤ b.toNat) ∧ (a.toNat = 0xF4 → b.toNat < 0x90)) := by
  -- the length of `w` leaves the rows of that length, and these differ in their ranges only
  match w with
  | [] => simp [WellFormed, table, Fits]
  | [a] =>
    simp [WellFormed, table, Fits, mem_byteRange]
    omega
  | [a, b] | [a, b, c] | [a, b, c, d] =>
    simp [WellFormed, table, Fits, mem_byteRange, IsFollower, and_assoc]
    omega
  | _ :: _ :: _ :: _ :: _ :: _ => simp [WellFormed, table, Fits]

/-! ### The sequence of a scalar value -/

theorem ofNat_eq_of_eq {n : Nat} {b : UInt8} (h : n = b.toNat) : UInt8.ofNat n = b := by
  rw [h, UInt8.ofNat_toNat]

/-- A well-formed sequence is that of its value. -/
theorem encode_value {w : List UInt8} (h : WellFormed w) : encode (value w) = w := by
  rcases wellFormed_iff.mp h with ⟨a, rfl, ha⟩ | ⟨a, b, rfl, h₁, h₂, hb⟩ |
      ⟨a, b, c, rfl, h₁, h₂, hb, hc, hlow, hhigh⟩ |
      ⟨a, b, c, d, rfl, h₁, h₂, hb, hc, hd, hlow, hhigh⟩
  all_goals simp only [IsFollower, value] at *
  · rw [encode, if_pos ha, UInt8.ofNat_toNat]
  · rw [encode, if_neg (by omega), if_pos (by omega)]
    simp only [List.cons.injEq, and_true]
    exact ⟨ofNat_eq_of_eq (by omega), ofNat_eq_of_eq (by omega)⟩
  · rw [encode, if_neg (by omega), if_neg (by omega), if_pos (by omega)]
    simp only [List.cons.injEq, and_true]
    exact ⟨ofNat_eq_of_eq (by omega), ofNat_eq_of_eq (by omega), ofNat_eq_of_eq (by omega)⟩
  · rw [encode, if_neg (by omega), if_neg (by omega), if_neg (by omega)]
    simp only [List.cons.injEq, and_true]
    exact ⟨ofNat_eq_of_eq (by omega), ofNat_eq_of_eq (by omega), ofNat_eq_of_eq (by omega),
      ofNat_eq_of_eq (by omega)⟩

/-- A well-formed sequence has a scalar value. -/
theorem isScalar_value {w : List UInt8} (h : WellFormed w) : IsScalar (value w) := by
  rcases wellFormed_iff.mp h with ⟨a, rfl, ha⟩ | ⟨a, b, rfl, h₁, h₂, hb⟩ |
      ⟨a, b, c, rfl, h₁, h₂, hb, hc, hlow, hhigh⟩ |
      ⟨a, b, c, d, rfl, h₁, h₂, hb, hc, hd, hlow, hhigh⟩
  all_goals simp only [IsScalar, IsFollower, value] at *; omega

/-- The sequence of a scalar value is well-formed, and its bits are the scalar value. -/
theorem wellFormed_encode {p : Nat} (h : IsScalar p) :
    WellFormed (encode p) ∧ value (encode p) = p := by
  rw [wellFormed_iff]
  simp only [IsScalar, encode, IsFollower] at *
  split
  · refine ⟨.inl ⟨_, rfl, ?_⟩, ?_⟩
    all_goals simp only [value, UInt8.toNat_ofNat']; omega
  split
  · refine ⟨.inr (.inl ⟨_, _, rfl, ?_⟩), ?_⟩
    all_goals simp only [value, UInt8.toNat_ofNat']; omega
  split
  · refine ⟨.inr (.inr (.inl ⟨_, _, _, rfl, ?_⟩)), ?_⟩
    all_goals simp only [value, UInt8.toNat_ofNat']; omega
  · refine ⟨.inr (.inr (.inr ⟨_, _, _, _, rfl, ?_⟩)), ?_⟩
    all_goals simp only [value, UInt8.toNat_ofNat']; omega

end TerminalText.Utf8
