import Mathlib.Data.List.Basic
import TerminalText.Proofs.Codepage.Decode

/-!
# What encoding keeps

A row of code points need not be text, and a line may lack some of them.  Where there is no default
byte, UTF-8 keeps them up to the first that is no scalar value, and a line of single bytes leaves
out those that have no byte: `kept` says what remains.

* `encode_kept`: what is left out has no part in the encoding.
* `decode_encode`: decoding takes the whole of an encoding and gives back what was kept, no more and
  no less.
* `length_encode_le`: how long an encoding can be is known beforehand, from the number of code
  points.
-/

namespace TerminalText

open CodePoint (IsScalar IsFontByte byteOfFont?)

namespace Codepage

instance (cp : Codepage) : DecidablePred cp.Represents := fun p =>
  match cp with
  | utf8      => inferInstanceAs (Decidable (IsScalar p))
  | raw       => inferInstanceAs (Decidable (IsFontByte p))
  | charset c => inferInstanceAs (Decidable ((c.byte? p).isSome = true))

/-! ### Lines of single bytes -/

/-- The byte of a code point on a line of single bytes. -/
def byteOf? : Codepage → Nat → Option UInt8
  | utf8,      _ => none
  | raw,       p => byteOfFont? p
  | charset c, p => c.byte? p

section SingleBytes

variable {cp : Codepage} (h : cp ≠ utf8)
include h

/-- A line of single bytes represents what it has a byte for. -/
theorem represents_iff_of_ne {p : Nat} : cp.Represents p ↔ (cp.byteOf? p).isSome := by
  cases cp with
  | utf8      => exact absurd rfl h
  | raw       => by_cases hp : IsFontByte p <;> simp [Represents, byteOf?, byteOfFont?, hp]
  | charset c => exact Iff.rfl

theorem exists_byteOf? {p : Nat} (hp : cp.Represents p) : ∃ b, cp.byteOf? p = some b :=
  Option.isSome_iff_exists.mp ((represents_iff_of_ne h).mp hp)

theorem byteOf?_eq_none {p : Nat} (hp : ¬ cp.Represents p) : cp.byteOf? p = none := by
  rwa [represents_iff_of_ne h, Option.not_isSome_iff_eq_none] at hp

theorem bytesOf_of_ne (p : Nat) : cp.bytesOf p = (cp.byteOf? p).toList := by
  cases cp with
  | utf8          => exact absurd rfl h
  | raw | charset => rfl

/-- A line of single bytes is encoded code point by code point. -/
theorem encode_of_ne (default : Option UInt8) (ps : List Nat) :
    cp.encode default ps = ps.filterMap (byteOr? cp.byteOf? default) := by
  cases cp with
  | utf8          => exact absurd rfl h
  | raw | charset => rfl

end SingleBytes

theorem byteOr?_some {byte? : Nat → Option UInt8} {p : Nat} {b : UInt8} (h : byte? p = some b)
    (default : Option UInt8) : byteOr? byte? default p = some b := by
  rw [byteOr?, h]

theorem byteOr?_none {byte? : Nat → Option UInt8} {p : Nat} (h : byte? p = none)
    (default : Option UInt8) : byteOr? byte? default p = default := by
  rw [byteOr?, h]

/-! ### Without a default byte -/

/-- What the codepage keeps of code points where there is no default byte. -/
def kept (cp : Codepage) (ps : List Nat) : List Nat :=
  match cp with
  | utf8 => ps.takeWhile (utf8.Represents ·)
  | cp   => ps.filter (cp.Represents ·)

theorem kept_of_ne {cp : Codepage} (h : cp ≠ utf8) (ps : List Nat) :
    cp.kept ps = ps.filter (cp.Represents ·) := by
  rw [kept]
  exact h

theorem represents_of_mem_kept {cp : Codepage} {ps : List Nat} {p : Nat} (hp : p ∈ cp.kept ps) :
    cp.Represents p := by
  by_cases h : cp = utf8
  · subst h
    have hp := List.mem_takeWhile_imp (p := (utf8.Represents ·)) hp
    exact of_decide_eq_true hp
  · rw [kept_of_ne h] at hp
    exact of_decide_eq_true (List.mem_filter.mp hp).2

/-- What is left out has no part in the encoding. -/
theorem encode_kept (cp : Codepage) (ps : List Nat) :
    cp.encode none (cp.kept ps) = cp.encode none ps := by
  by_cases h : cp = utf8
  · subst h
    show ((ps.takeWhile (IsScalar ·)).takeWhile (IsScalar ·)).flatMap Utf8.encode = _
    rw [List.takeWhile_idem]
    rfl
  · rw [encode_of_ne h, encode_of_ne h, kept_of_ne h, List.filterMap_filter]
    refine List.filterMap_congr fun p _ => ?_
    by_cases hp : cp.Represents p
    · rw [if_pos (decide_eq_true hp)]
    · rw [if_neg (by simpa using hp), byteOr?_none (byteOf?_eq_none h hp)]

theorem decode_nil (cp : Codepage) : cp.decode [] = ⟨[], 0⟩ :=
  decode_of_not_point (by cases cp <;> nofun)

/-- **Decoding undoes encoding**: it takes every byte, and gives back exactly the code points that
were kept. -/
theorem decode_encode (cp : Codepage) (ps : List Nat) :
    cp.decode (cp.encode none ps) = ⟨cp.kept ps, (cp.encode none ps).length⟩ := by
  have hkept : ∀ p ∈ cp.kept ps, cp.Represents p := fun p hp => represents_of_mem_kept hp
  have hbytes : cp.encode none ps = (cp.kept ps).flatMap cp.bytesOf := by
    rw [← encode_kept, encode_eq_flatMap hkept]
  have hdecode := decode_append hkept []
  rw [List.append_nil, decode_nil, List.append_nil, Nat.add_zero] at hdecode
  rw [hbytes, hdecode]

end Codepage

/-! ### How long an encoding is -/

/-- No sequence has more than four bytes. -/
theorem Utf8.length_encode_le (p : Nat) : (encode p).length ≤ 4 := by
  unfold encode
  repeat' split
  all_goals simp only [List.length_cons, List.length_nil]; omega

namespace Codepage

/-- The most bytes that a code point takes. -/
def longest : Codepage → Nat
  | utf8 => 4
  | _    => 1

theorem longest_of_ne {cp : Codepage} (h : cp ≠ utf8) : cp.longest = 1 := by
  rw [longest]
  exact h

/-- An encoding has no more bytes than if each code point took the most. -/
theorem length_encode_le (cp : Codepage) (default : Option UInt8) (ps : List Nat) :
    (cp.encode default ps).length ≤ cp.longest * ps.length := by
  by_cases h : cp = utf8
  · subst h
    show ((ps.takeWhile (IsScalar ·)).flatMap Utf8.encode).length ≤ 4 * ps.length
    induction ps with
    | nil => exact Nat.zero_le _
    | cons p ps ih =>
      have hlen := Utf8.length_encode_le p
      rw [List.length_cons]
      by_cases hp : IsScalar p
      · rw [List.takeWhile_cons_of_pos (by simpa using hp), List.flatMap_cons, List.length_append]
        omega
      · rw [List.takeWhile_cons_of_neg (by simpa using hp)]
        exact Nat.zero_le _
  · rw [encode_of_ne h, longest_of_ne h, Nat.one_mul]
    exact List.length_filterMap_le _ _

end Codepage

end TerminalText
