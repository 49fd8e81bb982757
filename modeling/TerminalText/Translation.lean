import TerminalText.Codepage.Registry
import TerminalText.Codepage.Decode

/-!
# Translation tables

What each of the 256 bytes shows, in three slots that a terminal switches between: the line's own
characters, DEC line drawing, and the alternate characters of SCO consoles.  A fourth table tells
which bytes are controls, by what they show on the line.

`Translation.build` makes the tables together, for they depend on one codepage: the one of the line
or, where that is the font's own encoding, the one of the font.
-/

namespace TerminalText

/-- How line drawing is shown. -/
inductive VtMode where
  | xwindows
  | oemAnsi
  | oemOnly
  | poorman
  | unicode
  deriving DecidableEq, Repr

namespace VtMode

/-- The mode where none is set. -/
instance : Inhabited VtMode := ⟨unicode⟩

/-- All modes. -/
def all : List VtMode := [xwindows, oemAnsi, oemOnly, poorman, unicode]

/-- The name of a mode in the settings. -/
def name : VtMode → String
  | xwindows => "xwindows"
  | oemAnsi  => "oemansi"
  | oemOnly  => "oemonly"
  | poorman  => "poorman"
  | unicode  => "unicode"

/-- The mode of a name, spelled exactly. -/
def ofName? (s : String) : Option VtMode := all.find? fun m => m.name = s

/-- A mode is found by its name. -/
theorem ofName?_name (m : VtMode) : ofName? m.name = some m := by cases m <;> decide

end VtMode

/-- The sets of characters that a terminal switches between. -/
inductive Slot where
  | line
  | lineDrawing
  | scoAlternate
  deriving DecidableEq, Repr

/-- The slot where none is chosen. -/
instance : Inhabited Slot := ⟨.line⟩

/-! ### Tables of bytes -/

/-- An entry for each byte. -/
abbrev ByteTable (α : Type) := Vector α 256

namespace ByteTable

variable {α : Type}

/-- The table of a function. -/
def tabulate (f : UInt8 → α) : ByteTable α := Vector.ofFn fun i => f (UInt8.ofNat i)

/-- The entry of a byte. -/
def entry (t : ByteTable α) (b : UInt8) : α :=
  have : b.toNat < 256 := b.toNat_lt
  t[b.toNat]

/-- A table made from a function answers as the function does. -/
@[simp] theorem entry_tabulate (f : UInt8 → α) (b : UInt8) : (tabulate f).entry b = f b := by
  simp [tabulate, entry]

end ByteTable

namespace Translation

/-! ### Glyphs -/

/-- DEC special graphics for the bytes 0x5F to 0x7E. -/
def decGraphics : Vector Nat 32 := #v[
  0x0020, 0x2666, 0x2592, 0x2409, 0x240C, 0x240D, 0x240A, 0x00B0,
  0x00B1, 0x2424, 0x240B, 0x2518, 0x2510, 0x250C, 0x2514, 0x253C,
  0x23BA, 0x23BB, 0x2500, 0x23BC, 0x23BD, 0x251C, 0x2524, 0x2534,
  0x252C, 0x2502, 0x2264, 0x2265, 0x03C0, 0x2260, 0x00A3, 0x00B7]

/-- The ASCII characters that come nearest to DEC special graphics. -/
def asciiGraphics : Vector Char 32 := #v[
  ' ', '*', '#', '*', '*', '*', '*', 'o',
  '~', '*', '*', '+', '+', '+', '+', '+',
  '-', '-', '-', '-', '-', '+', '+', '+',
  '+', '|', '*', '*', '*', '*', 'L', '.']

/-- The glyphs of PC fonts for the bytes 0x00 to 0x1F; the first of them stands at 0x7F. -/
def pcGlyphs : Vector Nat 32 := #v[
  0x2302, 0x263A, 0x263B, 0x2665, 0x2666, 0x2663, 0x2660, 0x2022,
  0x25D8, 0x25CB, 0x25D9, 0x2642, 0x2640, 0x266A, 0x266B, 0x263C,
  0x25B6, 0x25C0, 0x2195, 0x203C, 0x00B6, 0x00A7, 0x25AC, 0x21A8,
  0x2191, 0x2193, 0x2192, 0x2190, 0x221F, 0x2194, 0x25B2, 0x25BC]

/-! ### What a byte shows -/

/-- The code point that a byte alone decodes to, or else the given one. -/
def decodeOr (cp : Codepage) (b : UInt8) (otherwise : Nat) : Nat :=
  (cp.decode [b]).points.headD otherwise

/-- What a byte shows on the line.  Bytes that are no UTF-8 by themselves go to the font; a byte
that a charset leaves free shows U+FFFD. -/
def lineEntry (cp : Codepage) (b : UInt8) : Nat :=
  decodeOr cp b <| match cp with
    | .utf8 => CodePoint.fontByte b
    | _     => CodePoint.replacement

/-- What a byte shows in line drawing. -/
def lineDrawingEntry (cp : Codepage) (mode : VtMode) (b : UInt8) : Nat :=
  if h : 0x5F ≤ b.toNat ∧ b.toNat < 0x7F then
    match mode with
    | .poorman => asciiGraphics[b.toNat - 0x5F].toNat
    | _        => decGraphics[b.toNat - 0x5F]
  else lineEntry cp b

/-- What a byte shows among the alternate characters of SCO consoles: codepage 437, with glyphs in
the place of controls. -/
def scoAlternateEntry (b : UInt8) : Nat :=
  if h : 0 < b.toNat ∧ b.toNat < 0x20 then pcGlyphs[b.toNat]
  else if b.toNat = 0x7F then pcGlyphs[0]
  else decodeOr (.charset .cp437) b CodePoint.replacement

/-- The code point, or the byte it stands for, is a C0 or C1 control or DEL; of the font bytes,
those from 0x80 on are none. -/
def IsControl (p : Nat) : Prop :=
  p < 0x20 ∨ 0x7F ≤ p ∧ p < 0xA0 ∨
    CodePoint.fontBase ≤ p ∧ p < CodePoint.fontBase + 0x20 ∨ p = CodePoint.fontBase + 0x7F

instance : DecidablePred IsControl := fun p =>
  inferInstanceAs (Decidable (p < 0x20 ∨ 0x7F ≤ p ∧ p < 0xA0 ∨
    CodePoint.fontBase ≤ p ∧ p < CodePoint.fontBase + 0x20 ∨ p = CodePoint.fontBase + 0x7F))

/-- The byte, if it is a control on the line. -/
def controlEntry (cp : Codepage) (b : UInt8) : Option UInt8 :=
  if IsControl (lineEntry cp b) then some b else none

end Translation

/-! ### The tables of a line -/

/-- The tables of a terminal line, with the codepage and the mode they are made for. -/
structure Translation where
  codepage : Codepage
  mode : VtMode
  line : ByteTable Nat
  lineDrawing : ByteTable Nat
  scoAlternate : ByteTable Nat
  control : ByteTable (Option UInt8)
  deriving DecidableEq

namespace Translation

/-- The tables for one codepage. -/
def ofCodepage (cp : Codepage) (mode : VtMode) : Translation where
  codepage     := cp
  mode         := mode
  line         := .tabulate (lineEntry cp)
  lineDrawing  := .tabulate (lineDrawingEntry cp mode)
  scoAlternate := .tabulate scoAlternateEntry
  control      := .tabulate (controlEntry cp)

/-- The tables for a line and a font; the font's codepage counts where the line has none. -/
def build (line font : Codepage) (mode : VtMode) : Translation :=
  ofCodepage (if line.isRaw then font else line) mode

/-- The tables for a line whose codepage is given by name. -/
def buildNamed (line : Option String) (font : Codepage) (mode : VtMode) : Translation :=
  build (Codepage.resolve line) font mode

/-- Neither the line nor the font has a codepage: bytes go to the font as they are. -/
def directToFont (t : Translation) : Bool := t.codepage.isRaw

/-- What a byte shows in a slot. -/
def translate (t : Translation) (b : UInt8) : Slot → Nat
  | .line         => t.line.entry b
  | .lineDrawing  => t.lineDrawing.entry b
  | .scoAlternate => t.scoAlternate.entry b

/-- The byte is a control on the line. -/
def isControl (t : Translation) (b : UInt8) : Bool := (t.control.entry b).isSome

end Translation

end TerminalText
