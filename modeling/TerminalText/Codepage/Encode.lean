import TerminalText.Codepage
import TerminalText.Utf8

/-!
# Encoding

A code point that the codepage cannot represent is replaced by a default byte, or dropped where
there is none.  UTF-8 has no default: it ends at the first code point that is no scalar value.

`encode` writes all it can; `encodeInto` writes into a buffer, code point by code point, and ends
where the buffer is full.  A write has to lie within the buffer (`Filled.write`).  It is seen
behind what was written before, and nowhere else (`Filled.take_write`, `Filled.drop_write`).
-/

namespace TerminalText

namespace Codepage

/-- The byte for a code point on a line of single bytes, or else the default. -/
def byteOr? (byte? : Nat → Option UInt8) (default : Option UInt8) (p : Nat) : Option UInt8 :=
  match byte? p with
  | some b => some b
  | none   => default

/-- The bytes of some code points. -/
def encode (cp : Codepage) (default : Option UInt8) (points : List Nat) : List UInt8 :=
  match cp with
  | utf8      => (points.takeWhile (CodePoint.IsScalar ·)).flatMap Utf8.encode
  | raw       => points.filterMap (byteOr? CodePoint.byteOfFont? default)
  | charset c => points.filterMap (byteOr? c.byte? default)

end Codepage

/-! ### Writing into a buffer -/

/-- A row of bytes, with others in the place of those from `start` on. -/
def overwrite (row : List UInt8) (start : Nat) (bytes : List UInt8) : List UInt8 :=
  row.take start ++ bytes ++ row.drop (start + bytes.length)

/-- What lies within a row and is overwritten makes it neither longer nor shorter. -/
theorem length_overwrite {row bytes : List UInt8} {start : Nat}
    (h : start + bytes.length ≤ row.length) : (overwrite row start bytes).length = row.length := by
  simp only [overwrite, List.length_append, List.length_take, List.length_drop]
  omega

/-- A buffer while it is written: how many bytes from its start have been written, the code points
they stand for, and all that the buffer holds. -/
structure Filled where
  written : Nat
  consumed : Nat
  buffer : List UInt8
  written_le : written ≤ buffer.length
  deriving DecidableEq, Repr

namespace Filled

/-- A buffer before anything is written. -/
def start (buffer : List UInt8) : Filled := ⟨0, 0, buffer, Nat.zero_le _⟩

/-- Takes up one code point, and writes its bytes behind those already written. -/
def write (f : Filled) (bytes : List UInt8) (h : f.written + bytes.length ≤ f.buffer.length) :
    Filled where
  written := f.written + bytes.length
  consumed := f.consumed + 1
  buffer := overwrite f.buffer f.written bytes
  written_le := by rwa [length_overwrite h]

variable {f : Filled} {bytes : List UInt8} (h : f.written + bytes.length ≤ f.buffer.length)

/-- What was written before is still there, with the new bytes behind it. -/
theorem take_write : (f.write bytes h).buffer.take (f.write bytes h).written =
    f.buffer.take f.written ++ bytes := by
  refine List.take_left' ?_
  rw [List.length_append, List.length_take, Nat.min_eq_left f.written_le]
  rfl

/-- Behind the new bytes all is as it was. -/
theorem drop_write : (f.write bytes h).buffer.drop (f.write bytes h).written =
    f.buffer.drop (f.write bytes h).written := by
  refine List.drop_left' ?_
  rw [List.length_append, List.length_take, Nat.min_eq_left f.written_le]
  rfl

end Filled

/-- Writes sequences of UTF-8, as long as the whole of the next one fits. -/
def Utf8.fill (f : Filled) : List Nat → Filled
  | []     => f
  | p :: r =>
    if h : CodePoint.IsScalar p ∧ f.written + (encode p).length ≤ f.buffer.length then
      fill (f.write (encode p) h.2) r
    else f

/-- Writes single bytes, as long as there is room; nothing is taken up once the buffer is full, not
even a code point that has no byte. -/
def fillBytes (byte? : Nat → Option UInt8) (f : Filled) : List Nat → Filled
  | []     => f
  | p :: r =>
    if h : f.written = f.buffer.length then f
    else
      have hroom : f.written + (byte? p).toList.length ≤ f.buffer.length := by
        have hone : (byte? p).toList.length ≤ 1 := Option.length_toList_le
        have := f.written_le
        omega
      fillBytes byte? (f.write (byte? p).toList hroom) r

/-- Writes the bytes of code points into a buffer, from its start. -/
def Codepage.encodeInto (cp : Codepage) (default : Option UInt8) (points : List Nat)
    (buffer : List UInt8) : Filled :=
  match cp with
  | utf8      => Utf8.fill (.start buffer) points
  | raw       => fillBytes (byteOr? CodePoint.byteOfFont? default) (.start buffer) points
  | charset c => fillBytes (byteOr? c.byte? default) (.start buffer) points

end TerminalText
