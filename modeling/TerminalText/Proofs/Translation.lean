import Mathlib.Data.List.Basic
import TerminalText.Proofs.Codepage.Encode
import TerminalText.Proofs.Codepage.Stream
import TerminalText.Translation

/-!
# The table of a line

The table of a line is made byte by byte, each decoded by itself, with an entry of its own for a
byte that stands for nothing.  `lineEntry_raw`, `lineEntry_ascii` and `lineEntry_charset` say what
it holds.

A stream is decoded in runs, and U+FFFD put between them.  Where each byte is read by itself
(`ReadsAlone`: any byte of a line that is not UTF-8, and ASCII) the two agree:

* `head_alone`: the head of a row of bytes is what the table shows of its first byte;
* `read_alone`: the stream gives what the table shows of its bytes one by one, and nothing waits.

The table undoes encoding as far as there is a byte for each code point: `map_encode` says what it
shows of the bytes that are sent, and `echo` what comes back over the whole of a line.
-/

namespace TerminalText

open Translation (lineEntry decodeOr)

/-- The byte is read by itself, whatever stands around it. -/
def Codepage.ReadsAlone (cp : Codepage) (b : UInt8) : Prop := cp = .utf8 → b.toNat < 0x80

/-- On a line of single bytes every byte is read by itself. -/
theorem Codepage.readsAlone_of_ne {cp : Codepage} (h : cp ≠ .utf8) (b : UInt8) :
    cp.ReadsAlone b := fun hcp => absurd hcp h

namespace Translation

/-! ### What the table holds -/

theorem decodeOr_of_point {cp : Codepage} {b : UInt8} {p n : Nat} (h : cp.head [b] = .point p n)
    (otherwise : Nat) : decodeOr cp b otherwise = p := by
  rw [decodeOr, Codepage.decode_of_point h]
  rfl

theorem decodeOr_of_not_point {cp : Codepage} {b : UInt8} (h : ∀ p n, cp.head [b] ≠ .point p n)
    (otherwise : Nat) : decodeOr cp b otherwise = otherwise := by
  rw [decodeOr, Codepage.decode_of_not_point h]
  rfl

/-- A byte shows the code point that it is by itself. -/
theorem lineEntry_of_point {cp : Codepage} {b : UInt8} {p n : Nat} (h : cp.head [b] = .point p n) :
    lineEntry cp b = p := decodeOr_of_point h _

/-- A line without a meaning shows the bytes of the font. -/
theorem lineEntry_raw (b : UInt8) : lineEntry .raw b = CodePoint.fontByte b :=
  lineEntry_of_point rfl

/-- In UTF-8 a byte of ASCII shows itself. -/
theorem lineEntry_ascii {b : UInt8} (h : b.toNat < 0x80) : lineEntry .utf8 b = b.toNat :=
  lineEntry_of_point (if_pos h)

/-- A byte of a charset shows its code point, or U+FFFD if it has none. -/
theorem lineEntry_charset (c : Charset) (b : UInt8) :
    lineEntry (.charset c) b = (c.point? b).getD CodePoint.replacement := by
  cases h : c.point? b with
  | some p => exact lineEntry_of_point (n := 1) (by simp [Codepage.head, h])
  | none   => exact decodeOr_of_not_point (by simp [Codepage.head, h]) _

/-! ### What the stream gives -/

/-- **One byte.**  What stands at the head is what the table shows of the first byte, or it is
malformed and the table shows U+FFFD. -/
theorem head_alone {cp : Codepage} {b : UInt8} (h : cp.ReadsAlone b) (r : List UInt8) :
    cp.head (b :: r) = .point (lineEntry cp b) 1 ∨
      cp.head (b :: r) = .malformed 1 ∧ lineEntry cp b = CodePoint.replacement := by
  cases cp with
  | utf8 =>
    have hb : b.toNat < 0x80 := h rfl
    rw [lineEntry_ascii hb]
    exact .inl (if_pos hb)
  | raw => rw [lineEntry_raw]; exact .inl rfl
  | charset c =>
    rw [lineEntry_charset]
    cases hp : c.point? b with
    | some p => exact .inl (by simp [Codepage.head, hp])
    | none   => exact .inr ⟨by simp [Codepage.head, hp], rfl⟩

/-- A byte that is read by itself gives what the table has for it, whatever follows. -/
theorem read_cons {cp : Codepage} {b : UInt8} (h : cp.ReadsAlone b) (r : List UInt8) :
    cp.read (b :: r) = (cp.read r).cons (lineEntry cp b) := by
  rcases head_alone h r with hhead | ⟨hhead, hentry⟩
  · rw [Codepage.read_of_point hhead]
    rfl
  · rw [Codepage.read_of_malformed hhead, hentry]
    rfl

/-- **The stream agrees with the table**: bytes that are read by themselves give what the table
shows of each, and nothing waits. -/
theorem read_alone {cp : Codepage} {bs : List UInt8} (h : ∀ b ∈ bs, cp.ReadsAlone b) :
    cp.read bs = ⟨bs.map (lineEntry cp), []⟩ := by
  induction bs with
  | nil => exact cp.read_nil
  | cons b bs ih =>
    rw [read_cons (h b (.head _)), ih fun a ha => h a (.tail _ ha)]
    rfl

/-! ### The tables that are made -/

/-- The table of the line shows each byte as the line does. -/
theorem translate_build (line font : Codepage) (mode : VtMode) (b : UInt8) :
    (build line font mode).translate b .line = lineEntry (build line font mode).codepage b := by
  simp only [build, ofCodepage, translate, ByteTable.entry_tabulate]

theorem isControl_build (line font : Codepage) (mode : VtMode) (b : UInt8) :
    (build line font mode).isControl b = true ↔
      IsControl (lineEntry (build line font mode).codepage b) := by
  simp only [build, ofCodepage, isControl, ByteTable.entry_tabulate, controlEntry]
  split <;> simp [*]

/-! ### What is sent -/

/-- What a line shows of code points that are sent over it: all of them in UTF-8, and elsewhere
those that the line can carry, with what the default byte shows in the place of any other. -/
def echo (t : Translation) (default : Option UInt8) (ps : List Nat) : List Nat :=
  match t.codepage with
  | .utf8 => ps
  | cp    => ps.filterMap fun p =>
    if cp.Represents p then some p else default.map (t.translate · .line)

/-- In UTF-8 all that is sent comes back. -/
theorem echo_utf8 {t : Translation} (h : t.codepage = .utf8) (default : Option UInt8)
    (ps : List Nat) : t.echo default ps = ps := by
  rw [echo, h]

/-- On a line of single bytes, what has no byte comes back as the default does, or not at all. -/
theorem echo_of_ne {t : Translation} (h : t.codepage ≠ .utf8) (default : Option UInt8)
    (ps : List Nat) : t.echo default ps = ps.filterMap fun p =>
      if t.codepage.Represents p then some p else default.map (t.translate · .line) := by
  rw [echo]
  split
  next hcp => exact absurd hcp h
  next     => rfl

/-- On a line of single bytes the table shows a code point by its byte. -/
theorem lineEntry_byteOf? {cp : Codepage} (h : cp ≠ .utf8) {p : Nat} {b : UInt8}
    (hb : cp.byteOf? p = some b) : lineEntry cp b = p := by
  have hp : cp.Represents p := (Codepage.represents_iff_of_ne h).mpr (by simp [hb])
  have hhead := Codepage.head_bytesOf hp []
  rw [Codepage.bytesOf_of_ne h, hb] at hhead
  exact lineEntry_of_point hhead

/-- On a line of single bytes the table shows what is sent as it is, but for what the line cannot
carry: there it shows the default byte. -/
theorem map_encode {cp : Codepage} (h : cp ≠ .utf8) (default : Option UInt8) (ps : List Nat) :
    (cp.encode default ps).map (lineEntry cp) =
      ps.filterMap fun p => if cp.Represents p then some p else default.map (lineEntry cp) := by
  rw [Codepage.encode_of_ne h, List.map_filterMap]
  refine List.filterMap_congr fun p _ => ?_
  by_cases hp : cp.Represents p
  · obtain ⟨b, hb⟩ := Codepage.exists_byteOf? h hp
    rw [if_pos hp, Codepage.byteOr?_some hb, Option.map_some, lineEntry_byteOf? h hb]
  · rw [if_neg hp, Codepage.byteOr?_none (Codepage.byteOf?_eq_none h hp)]

end Translation

end TerminalText
