import TerminalText.CellWidth.Combining
import TerminalText.CellWidth.EastAsian

/-!
# Cell widths

How many cells of the terminal grid a code point takes.  A code point is of zero, one or two
columns, or it is a control that has no width at all (`invalid`).

The classes of the Unicode data overlap, so the order of the tests in `plain` is part of the rule:
what lies below U+0300 is settled by its number alone, and so U+00AD SOFT HYPHEN is narrow although
`combiningTable` holds it.

Runs of code points are measured up to the first NUL.  A control before it leaves the run without
a width.
-/

namespace TerminalText

/-- What a code point takes on the grid. -/
inductive CellWidth where
  | zero
  | narrow
  | wide
  | invalid
  deriving DecidableEq, Repr

namespace CellWidth

/-- The number of columns; a control has none. -/
def columns : CellWidth → Option Nat
  | zero    => some 0
  | narrow  => some 1
  | wide    => some 2
  | invalid => none

/-- Two columns. -/
def isWide : CellWidth → Bool
  | wide => true
  | _    => false

/-! ### One code point -/

/-- C0 controls other than NUL, DEL and C1 controls. -/
def IsControl (p : Nat) : Prop := 0 < p ∧ p < 0x20 ∨ 0x7F ≤ p ∧ p < 0xA0

instance : DecidablePred IsControl := fun p =>
  inferInstanceAs (Decidable (0 < p ∧ p < 0x20 ∨ 0x7F ≤ p ∧ p < 0xA0))

/-- Medial vowels and final consonants of Hangul, drawn into the cells of the initial. -/
def IsJamoTail (p : Nat) : Prop := 0x1160 ≤ p ∧ p ≤ 0x11FF

instance : DecidablePred IsJamoTail := fun p =>
  inferInstanceAs (Decidable (0x1160 ≤ p ∧ p ≤ 0x11FF))

/-- The width of a code point where ambiguous characters are narrow.  Nothing below U+1100 is
wide, and what lies outside Unicode is narrow. -/
def plain (p : Nat) : CellWidth :=
  if p < 0x300 then
    if p = 0 then zero
    else if IsControl p then invalid
    else narrow
  else if combiningTable.contains p then zero
  else if p < 0x1100 then narrow
  else if IsJamoTail p then zero
  else if wideTable.contains p then wide
  else narrow

/-- The width of a code point.  With `ambiguousWide`, a narrow character beyond ASCII takes two
columns if its East Asian width is ambiguous. -/
def ofPoint (ambiguousWide : Bool) (p : Nat) : CellWidth :=
  if ambiguousWide ∧ plain p = narrow ∧ 0x80 ≤ p ∧ ambiguousTable.contains p then wide
  else plain p

/-- Where ambiguous characters are narrow, their table is not asked. -/
theorem ofPoint_false (p : Nat) : ofPoint false p = plain p := if_neg nofun

/-! ### Runs -/

/-- The sum of the columns, if every element has some. -/
def total {α : Type} (columnsOf : α → Option Nat) : List α → Option Nat
  | []     => some 0
  | a :: r =>
    match columnsOf a, total columnsOf r with
    | some n, some m => some (n + m)
    | _,      _      => none

/-- The columns of a run of code points, which a NUL ends. -/
def ofRun (ambiguousWide : Bool) (points : List Nat) : Option Nat :=
  total (fun p => (ofPoint ambiguousWide p).columns) (points.takeWhile (· ≠ 0))

/-- The columns of a text, which a NUL ends. -/
def ofText (ambiguousWide : Bool) (text : String) : Option Nat :=
  total (fun c => (ofPoint ambiguousWide c.toNat).columns) (text.toList.takeWhile (· ≠ '\x00'))

/-! ### Stretches of equal width -/

/-- Code points from `first` to `last` of one width. -/
structure Stretch where
  first : Nat
  last : Nat
  width : CellWidth
  deriving DecidableEq, Repr

/-- Adds the next code point to stretches that stand in descending order. -/
def Stretch.extend (ambiguousWide : Bool) (done : List Stretch) (p : Nat) : List Stretch :=
  match done with
  | []        => [⟨p, p, ofPoint ambiguousWide p⟩]
  | s :: rest =>
    if s.width = ofPoint ambiguousWide p then { s with last := p } :: rest
    else ⟨p, p, ofPoint ambiguousWide p⟩ :: s :: rest

/-- The code points from `first` to `last`, in the longest stretches of equal width. -/
def stretches (ambiguousWide : Bool) (first last : Nat) : List Stretch :=
  ((List.range' first (last + 1 - first)).foldl (Stretch.extend ambiguousWide) []).reverse

end CellWidth

end TerminalText
