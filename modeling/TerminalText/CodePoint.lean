/-!
# Code points

A code point is a natural number.  Only some of them are *scalar values*, the code points that
text can hold: those up to U+10FFFF that are no surrogate.

The 256 code points from U+F000 on are *font bytes*: `fontByte b` stands for the byte `b` sent to
the font as it is, with no Unicode meaning of its own.  `byteOfFont?` reads the byte back.
-/

namespace TerminalText.CodePoint

/-- The code points that text can hold. -/
def IsScalar (p : Nat) : Prop := p < 0xD800 ∨ 0xDFFF < p ∧ p < 0x110000

instance : DecidablePred IsScalar := fun p =>
  inferInstanceAs (Decidable (p < 0xD800 ∨ 0xDFFF < p ∧ p < 0x110000))

/-- Every character is a scalar value. -/
theorem isScalar_of_char (c : Char) : IsScalar c.toNat := c.valid

/-- U+FFFD, shown where bytes have no meaning. -/
def replacement : Nat := 0xFFFD

/-! ### Font bytes -/

/-- The first of the 256 font bytes. -/
def fontBase : Nat := 0xF000

/-- The code point that stands for a byte sent to the font. -/
def fontByte (b : UInt8) : Nat := fontBase + b.toNat

/-- `p` stands for a byte sent to the font. -/
def IsFontByte (p : Nat) : Prop := fontBase ≤ p ∧ p < fontBase + 0x100

instance : DecidablePred IsFontByte := fun p =>
  inferInstanceAs (Decidable (fontBase ≤ p ∧ p < fontBase + 0x100))

/-- The byte that a font byte stands for. -/
def byteOfFont? (p : Nat) : Option UInt8 :=
  if IsFontByte p then some (UInt8.ofNat (p - fontBase)) else none

/-- Every byte has its place among the font bytes. -/
theorem isFontByte_fontByte (b : UInt8) : IsFontByte (fontByte b) := by
  have := b.toNat_lt
  simp only [IsFontByte, fontByte, fontBase]; omega

/-- A byte sent to the font is read back. -/
theorem byteOfFont?_fontByte (b : UInt8) : byteOfFont? (fontByte b) = some b := by
  rw [byteOfFont?, if_pos (isFontByte_fontByte b), fontByte, Nat.add_sub_cancel_left,
    UInt8.ofNat_toNat]

/-- Only `fontByte b` reads back as `b`. -/
theorem eq_fontByte_of_byteOfFont? {p : Nat} {b : UInt8} (h : byteOfFont? p = some b) :
    p = fontByte b := by
  unfold byteOfFont? at h
  split at h
  case isFalse => simp at h
  case isTrue hp =>
    rw [← Option.some.inj h, fontByte, UInt8.toNat_ofNat']
    simp only [IsFontByte, fontBase] at hp ⊢
    omega

end TerminalText.CodePoint
