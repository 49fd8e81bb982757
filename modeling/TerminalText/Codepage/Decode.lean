import TerminalText.Codepage
import TerminalText.Utf8

/-!
# Decoding

`Codepage.head` looks at the head of the bytes of a line, and `Codepage.decode` goes on as long as
it finds code points.  What it leaves either waits for more bytes or can never be decoded;
`Codepage.malformed?` tells which, and how many bytes have to be given up.

In a single-byte charset a byte without a code point is given up alone, and nothing ever waits.

The bytes of a stream arrive in pieces, and a piece may end inside a sequence.  `Codepage.read`
decodes what it is given, puts U+FFFD in the place of each sequence that can never be decoded, and
holds back a beginning that the next piece may complete.
-/

namespace TerminalText

namespace Codepage

/-- What stands at the head of bytes on a line of this codepage. -/
def head : Codepage → List UInt8 → Head
  | utf8,      bs     => Utf8.head bs
  | raw,       b :: _ => .point (CodePoint.fontByte b) 1
  | charset c, b :: _ =>
    match c.point? b with
    | some p => .point p 1
    | none   => .malformed 1
  | _,         []     => .incomplete

/-- What is found at the head, if it is no beginning, takes up one byte at least and lies within
the bytes. -/
theorem head_size_bounds {cp : Codepage} {bs : List UInt8} {x : Head} (h : cp.head bs = x)
    (hx : x ≠ .incomplete) : 0 < x.size ∧ x.size ≤ bs.length := by
  cases cp with
  | utf8 => exact Utf8.head_size_bounds h hx
  | raw | charset =>
    subst h
    cases bs with
    | nil => exact absurd rfl hx
    | cons b r =>
      simp only [head]
      repeat' split
      all_goals simp [Head.size]

theorem size_bounds_of_point {cp : Codepage} {bs : List UInt8} {p n : Nat}
    (h : cp.head bs = .point p n) : 0 < n ∧ n ≤ bs.length := head_size_bounds h nofun

theorem size_bounds_of_malformed {cp : Codepage} {bs : List UInt8} {n : Nat}
    (h : cp.head bs = .malformed n) : 0 < n ∧ n ≤ bs.length := head_size_bounds h nofun

end Codepage

/-! ### Runs of code points -/

/-- The code points at the head of some bytes, and how many bytes they take. -/
structure Decoded where
  points : List Nat
  consumed : Nat
  deriving DecidableEq, Repr

namespace Codepage

/-- Decodes as many code points as stand at the head of the bytes. -/
def decode (cp : Codepage) (bytes : List UInt8) : Decoded :=
  match _ : cp.head bytes with
  | .point p n =>
    let rest := cp.decode (bytes.drop n)
    ⟨p :: rest.points, n + rest.consumed⟩
  | _ => ⟨[], 0⟩
termination_by bytes.length
decreasing_by
  have := size_bounds_of_point ‹_›
  simp only [List.length_drop]
  omega

/-- How many bytes of what decoding leaves can never be decoded; none if more bytes may complete
them.  UTF-8 is validated once more for this; elsewhere one byte is given up. -/
def malformed? : Codepage → List UInt8 → Option Nat
  | utf8, bytes => Utf8.malformed? bytes
  | _,    _     => some 1

/-- Of bytes that are there, giving some up takes one at least and no more than there are. -/
theorem malformed?_bounds {cp : Codepage} {bytes : List UInt8} {n : Nat} (hb : bytes ≠ [])
    (h : cp.malformed? bytes = some n) : 0 < n ∧ n ≤ bytes.length := by
  have hpos := List.length_pos_iff.2 hb
  cases cp with
  | utf8 => exact Utf8.malformed?_bounds h
  | raw | charset => cases h; exact ⟨Nat.one_pos, hpos⟩

/-- Decoding takes no more bytes than there are. -/
theorem decode_consumed_le (cp : Codepage) (bytes : List UInt8) :
    (cp.decode bytes).consumed ≤ bytes.length := by
  fun_induction decode cp bytes with
  | case1 bs p n h _ ih =>
    have := size_bounds_of_point h
    simp only [List.length_drop] at ih
    show n + (cp.decode (bs.drop n)).consumed ≤ bs.length
    omega
  | case2 => exact Nat.zero_le _

end Codepage

/-! ### Streams -/

/-- What some bytes of a stream give: the code points, and the bytes held back. -/
structure Reading where
  points : List Nat
  held : List UInt8
  deriving DecidableEq, Repr

namespace Codepage

/-- Decodes the bytes of a stream as far as they go. -/
def read (cp : Codepage) (bytes : List UInt8) : Reading :=
  let run := cp.decode bytes
  let rest := bytes.drop run.consumed
  if _ : rest = [] then ⟨run.points, []⟩
  else match _ : cp.malformed? rest with
    | none   => ⟨run.points, rest⟩
    | some n =>
      let next := cp.read (rest.drop n)
      ⟨run.points ++ CodePoint.replacement :: next.points, next.held⟩
termination_by bytes.length
decreasing_by
  have := malformed?_bounds ‹_› ‹_›
  simp only [rest, List.length_drop] at this ⊢
  omega

end Codepage

end TerminalText
