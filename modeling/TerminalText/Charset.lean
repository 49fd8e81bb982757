import TerminalText.Charset.HighHalf

/-!
# Single-byte charsets

A charset gives some of the 256 bytes a code point (`point?`) and some code points a byte
(`byte?`).  Bytes below 0x80 are ASCII in all of them.
-/

namespace TerminalText

/-- The single-byte charsets. -/
inductive Charset where
  | latin1
  | latin2
  | cyrillic
  | latin9
  | koi8r
  | koi8u
  | cp437
  | cp850
  | cp866
  | cp1251
  | cp1252
  deriving DecidableEq, Repr

namespace Charset

/-- All charsets, in the order of the selection list. -/
def all : List Charset :=
  [latin1, latin2, cyrillic, latin9, koi8r, koi8u, cp437, cp850, cp866, cp1251, cp1252]

theorem mem_all (c : Charset) : c ∈ all := by cases c <;> decide

/-- The name by which a charset is shown. -/
def name : Charset → String
  | latin1   => "ISO-8859-1"
  | latin2   => "ISO-8859-2"
  | cyrillic => "ISO-8859-5"
  | latin9   => "ISO-8859-15"
  | koi8r    => "KOI8-R"
  | koi8u    => "KOI8-U"
  | cp437    => "CP437"
  | cp850    => "CP850"
  | cp866    => "CP866"
  | cp1251   => "CP1251"
  | cp1252   => "CP1252"

/-- The number of a charset, its Windows codepage number. -/
def id : Charset → Nat
  | latin1   => 28591
  | latin2   => 28592
  | cyrillic => 28595
  | latin9   => 28605
  | koi8r    => 20866
  | koi8u    => 21866
  | cp437    => 437
  | cp850    => 850
  | cp866    => 866
  | cp1251   => 1251
  | cp1252   => 1252

/-- The code points of the upper half; ISO 8859-1 needs no table, for its bytes are the first 256
code points. -/
def highHalf? : Charset → Option HighHalf
  | latin1   => none
  | latin2   => some .latin2
  | cyrillic => some .cyrillic
  | latin9   => some .latin9
  | koi8r    => some .koi8r
  | koi8u    => some .koi8u
  | cp437    => some .cp437
  | cp850    => some .cp850
  | cp866    => some .cp866
  | cp1251   => some .cp1251
  | cp1252   => some .cp1252

/-- The code point of a byte, if the charset gives it one. -/
def point? (c : Charset) (b : UInt8) : Option Nat :=
  if b.toNat < 0x80 then some b.toNat
  else match c.highHalf? with
    | none   => some b.toNat
    | some t => t.point? (b.toNat - 0x80)

/-- The byte of a code point, if the charset has one. -/
def byte? (c : Charset) (p : Nat) : Option UInt8 :=
  if p < 0x80 then some (UInt8.ofNat p)
  else match c.highHalf? with
    | none   => if p < 0x100 then some (UInt8.ofNat p) else none
    | some t => (t.place? p).map fun k => UInt8.ofNat (0x80 + k)

end Charset

end TerminalText
