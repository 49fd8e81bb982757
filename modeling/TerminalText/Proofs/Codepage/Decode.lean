import Mathlib.Data.List.TakeWhile
import TerminalText.Codepage.Encode
import TerminalText.Codepage.Decode
import TerminalText.Proofs.Charset
import TerminalText.Proofs.Utf8.Head

/-!
# Decoding and encoding

`Represents` names the code points that a line of a codepage can carry, and `bytesOf` the bytes of
one of them.  The head of a row of bytes is a code point exactly when they start with its bytes
(`head_bytesOf`, `bytesOf_of_head`), whatever the codepage; all else here follows from these two.

* `decode_append`: decoding goes through the bytes of code points, and on with what follows them.
* `decode_longest`: what is decoded encodes to the bytes it was decoded from, and no longer part at
  the front of the bytes is the encoding of anything.
-/

namespace TerminalText.Codepage

open CodePoint (IsScalar IsFontByte byteOfFont?)

/-- The code points that a line of this codepage can carry. -/
def Represents : Codepage → Nat → Prop
  | utf8,      p => IsScalar p
  | raw,       p => IsFontByte p
  | charset c, p => (c.byte? p).isSome

/-- The bytes of one code point, if the line can carry it. -/
def bytesOf : Codepage → Nat → List UInt8
  | utf8,      p => Utf8.encode p
  | raw,       p => (byteOfFont? p).toList
  | charset c, p => (c.byte? p).toList

/-! ### One code point -/

/-- Each of the font bytes stands for a byte. -/
theorem byteOfFont?_of_isFontByte {p : Nat} (h : IsFontByte p) :
    ∃ b, byteOfFont? p = some b ∧ CodePoint.fontByte b = p := by
  obtain ⟨b, hb⟩ : ∃ b, byteOfFont? p = some b := ⟨_, if_pos h⟩
  exact ⟨b, hb, (CodePoint.eq_fontByte_of_byteOfFont? hb).symm⟩

/-- The bytes of a code point at the front are found. -/
theorem head_bytesOf {cp : Codepage} {p : Nat} (h : cp.Represents p) (r : List UInt8) :
    cp.head (cp.bytesOf p ++ r) = .point p (cp.bytesOf p).length := by
  cases cp with
  | utf8 =>
    obtain ⟨hw, hp⟩ := Utf8.wellFormed_encode h
    have := Utf8.head_wellFormed hw r
    rwa [hp] at this
  | raw =>
    obtain ⟨b, hb, rfl⟩ := byteOfFont?_of_isFontByte h
    rw [bytesOf, hb]
    rfl
  | charset c =>
    obtain ⟨b, hb⟩ := Option.isSome_iff_exists.mp h
    rw [bytesOf, hb]
    simp [head, Charset.byte?_eq_some_iff.mp hb]

/-- What is found is a code point that the line can carry, with its bytes. -/
theorem bytesOf_of_head {cp : Codepage} {bs : List UInt8} {p n : Nat}
    (h : cp.head bs = .point p n) :
    cp.Represents p ∧ ∃ r, bs = cp.bytesOf p ++ r ∧ n = (cp.bytesOf p).length := by
  cases cp with
  | utf8 =>
    obtain ⟨w, r, rfl, hw, rfl, rfl⟩ := Utf8.wellFormed_of_head h
    refine ⟨Utf8.isScalar_value hw, r, ?_⟩
    rw [bytesOf, Utf8.encode_value hw]
    exact ⟨rfl, rfl⟩
  | raw =>
    cases bs with
    | nil => cases h
    | cons b r =>
      cases h
      refine ⟨CodePoint.isFontByte_fontByte b, r, ?_⟩
      rw [bytesOf, CodePoint.byteOfFont?_fontByte]
      exact ⟨rfl, rfl⟩
  | charset c =>
    cases bs with
    | nil => cases h
    | cons b r =>
      simp only [head] at h
      split at h
      case h_2 => cases h
      case h_1 q hq =>
        cases h
        have hb := Charset.byte?_eq_some_iff.mpr hq
        refine ⟨Option.isSome_iff_exists.mpr ⟨b, hb⟩, r, ?_⟩
        rw [bytesOf, hb]
        exact ⟨rfl, rfl⟩

theorem filterMap_byteOr? {byte? : Nat → Option UInt8} {default : Option UInt8} {ps : List Nat}
    (h : ∀ p ∈ ps, (byte? p).isSome) :
    ps.filterMap (byteOr? byte? default) = ps.flatMap fun p => (byte? p).toList := by
  induction ps with
  | nil => rfl
  | cons p ps ih =>
    obtain ⟨b, hb⟩ := Option.isSome_iff_exists.mp (h p (.head _))
    rw [List.filterMap_cons_some (by rw [byteOr?, hb]), ih fun q hq => h q (.tail _ hq),
      List.flatMap_cons, hb]
    rfl

/-- The default byte has no part in the encoding of what the line can carry. -/
theorem encode_eq_flatMap {cp : Codepage} {ps : List Nat} (h : ∀ p ∈ ps, cp.Represents p)
    (default : Option UInt8) : cp.encode default ps = ps.flatMap cp.bytesOf := by
  cases cp with
  | utf8 =>
    have hs : ∀ p ∈ ps, decide (IsScalar p) = true := fun p hp => decide_eq_true (h p hp)
    rw [encode, List.takeWhile_eq_self_iff.mpr hs]
    rfl
  | raw =>
    refine filterMap_byteOr? fun p hp => ?_
    obtain ⟨b, hb, -⟩ := byteOfFont?_of_isFontByte (h p hp)
    simp [hb]
  | charset c => exact filterMap_byteOr? h

/-! ### Runs of code points -/

theorem decode_of_point {cp : Codepage} {bs : List UInt8} {p n : Nat}
    (h : cp.head bs = .point p n) : cp.decode bs =
      ⟨p :: (cp.decode (bs.drop n)).points, n + (cp.decode (bs.drop n)).consumed⟩ := by
  rw [decode]
  split
  next q m hq =>
    rw [h] at hq
    cases hq
    rfl
  next hno => exact absurd h (hno p n)

/-- Decoding ends where no code point is found. -/
theorem decode_of_not_point {cp : Codepage} {bs : List UInt8}
    (h : ∀ p n, cp.head bs ≠ .point p n) : cp.decode bs = ⟨[], 0⟩ := by
  rw [decode]
  split
  next q m hq => exact absurd hq (h q m)
  next => rfl

/-- Decoding goes through the bytes of code points, and on with what follows them. -/
theorem decode_append {cp : Codepage} {ps : List Nat} (h : ∀ p ∈ ps, cp.Represents p)
    (r : List UInt8) : cp.decode (ps.flatMap cp.bytesOf ++ r) =
      ⟨ps ++ (cp.decode r).points, (ps.flatMap cp.bytesOf).length + (cp.decode r).consumed⟩ := by
  induction ps with
  | nil => simp
  | cons p ps ih =>
    have hp := head_bytesOf (h p (.head _)) (ps.flatMap cp.bytesOf ++ r)
    rw [List.flatMap_cons, List.append_assoc, decode_of_point hp, List.drop_left,
      ih fun q hq => h q (.tail _ hq)]
    simp only [List.cons_append, List.length_append, Nat.add_assoc]

/-- What is decoded can be carried, and its bytes are those it was decoded from. -/
theorem decode_bytes (cp : Codepage) (bs : List UInt8) :
    (∀ p ∈ (cp.decode bs).points, cp.Represents p) ∧
      (cp.decode bs).points.flatMap cp.bytesOf = bs.take (cp.decode bs).consumed := by
  fun_induction decode cp bs with
  | case1 bs p n h rest ih =>
    obtain ⟨hp, t, rfl, rfl⟩ := bytesOf_of_head h
    obtain ⟨hps, hbytes⟩ := ih
    refine ⟨fun q hq => ?_, ?_⟩
    · rcases List.mem_cons.mp hq with rfl | hq
      · exact hp
      · exact hps q hq
    · rw [List.flatMap_cons, hbytes, List.drop_left, List.take_length_add_append]
      simp only [rest, List.drop_left]
  | case2 bs h =>
    refine ⟨fun p hp => ?_, rfl⟩
    cases hp

/-- **Decoding takes the longest part at the front that is the encoding of something**, and
encoding undoes it. -/
theorem decode_longest (cp : Codepage) (bs : List UInt8) (default : Option UInt8) :
    (cp.decode bs).consumed ≤ bs.length ∧
    cp.encode default (cp.decode bs).points = bs.take (cp.decode bs).consumed ∧
    ¬ ∃ qs, (∀ q ∈ qs, cp.Represents q) ∧ cp.encode none qs <+: bs ∧
      (cp.decode bs).consumed < (cp.encode none qs).length := by
  obtain ⟨hps, hbytes⟩ := decode_bytes cp bs
  refine ⟨decode_consumed_le cp bs, (encode_eq_flatMap hps default).trans hbytes, ?_⟩
  rintro ⟨qs, hqs, ⟨t, rfl⟩, hlt⟩
  -- the decoder goes through all of `qs`, and so no less far than their encoding
  rw [encode_eq_flatMap hqs, decode_append hqs] at hlt
  exact Nat.not_lt.mpr (Nat.le_add_right _ _) hlt

end TerminalText.Codepage
