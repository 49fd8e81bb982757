import TerminalText.CodePoint

/-!
# UTF-8

Decoding looks at the head of a row of bytes and finds one of three things (`Head`): the bytes of a
code point, a beginning that more bytes may complete, or bytes that nothing can complete.  No bytes
at all are a beginning too.

`Utf8.encode p` is the sequence of a scalar value.  `Utf8.head` looks at the head: the lead byte
says how many bytes follow and within which range the first of them lies (`lead?`), and `follow`
takes them one by one.

The range of the first following byte is what keeps out overlong sequences, surrogates and what
lies above U+10FFFF, so that bytes are malformed as soon as no well-formed sequence begins with
them.  `head_size_bounds` says that what is found lies within the bytes.

`malformed?` goes from head to head, up to the first that is malformed.
-/

namespace TerminalText

/-! ### The head of a row of bytes -/

/-- What stands at the head of a row of bytes. -/
inductive Head where
  /-- The first `size` bytes are those of the code point `p`. -/
  | point (p size : Nat)
  /-- All the bytes are the beginning of a code point that is not there yet. -/
  | incomplete
  /-- The first `size` bytes begin no code point. -/
  | malformed (size : Nat)
  deriving DecidableEq, Repr

/-- The bytes that what is found takes up; a beginning takes up none. -/
def Head.size : Head → Nat
  | point _ n   => n
  | incomplete  => 0
  | malformed n => n

namespace Utf8

/-! ### Sequences -/

/-- The UTF-8 sequence of a scalar value. -/
def encode (p : Nat) : List UInt8 :=
  if p < 0x80 then [.ofNat p]
  else if p < 0x800 then [.ofNat (0xC0 + p / 0x40), .ofNat (0x80 + p % 0x40)]
  else if p < 0x10000 then
    [.ofNat (0xE0 + p / 0x1000), .ofNat (0x80 + p / 0x40 % 0x40), .ofNat (0x80 + p % 0x40)]
  else
    [.ofNat (0xF0 + p / 0x40000), .ofNat (0x80 + p / 0x1000 % 0x40),
      .ofNat (0x80 + p / 0x40 % 0x40), .ofNat (0x80 + p % 0x40)]

/-! ### Looking at the head -/

/-- What the first byte of a longer sequence says of the sequence. -/
structure Lead where
  /-- The bits it gives to the code point. -/
  bits : Nat
  /-- How many bytes follow. -/
  following : Nat
  /-- The least the first of them may be. -/
  low : Nat
  /-- The most the first of them may be. -/
  high : Nat
  deriving DecidableEq, Repr

/-- The bytes that begin a sequence of two, three or four. -/
def lead? (b : UInt8) : Option Lead :=
  let n := b.toNat
  if n < 0xC2 then none
  else if n < 0xE0 then some ⟨n - 0xC0, 1, 0x80, 0xBF⟩
  else if n = 0xE0 then some ⟨0x0, 2, 0xA0, 0xBF⟩
  else if n = 0xED then some ⟨0xD, 2, 0x80, 0x9F⟩
  else if n < 0xF0 then some ⟨n - 0xE0, 2, 0x80, 0xBF⟩
  else if n = 0xF0 then some ⟨0, 3, 0x90, 0xBF⟩
  else if n < 0xF4 then some ⟨n - 0xF0, 3, 0x80, 0xBF⟩
  else if n = 0xF4 then some ⟨4, 3, 0x80, 0x8F⟩
  else none

/-- Takes the bytes that have yet to follow.  `bits` is what the `size` bytes before them gave,
and the next byte lies between `low` and `high`; those after it may be any of 0x80 to 0xBF. -/
def follow (bits size : Nat) : (following low high : Nat) → List UInt8 → Head
  | 0,     _,   _,    _      => .point bits size
  | _ + 1, _,   _,    []     => .incomplete
  | n + 1, low, high, b :: r =>
    if low ≤ b.toNat ∧ b.toNat ≤ high then
      follow (bits * 0x40 + (b.toNat - 0x80)) (size + 1) n 0x80 0xBF r
    else .malformed size

/-- What stands at the head of bytes in UTF-8. -/
def head : List UInt8 → Head
  | []     => .incomplete
  | b :: r =>
    if b.toNat < 0x80 then .point b.toNat 1
    else match lead? b with
      | none   => .malformed 1
      | some l => follow l.bits 1 l.following l.low l.high r

/-! ### What is found lies within the bytes -/

/-- Whatever comes of the bytes that follow, it takes up the bytes before them and no more than
there are. -/

theorem follow_size {bits size n low high : Nat} {r : List UInt8}
    (h : follow bits size n low high r ≠ .incomplete) :
    size ≤ (follow bits size n low high r).size ∧
      (follow bits size n low high r).size ≤ size + r.length := by
  induction r generalizing bits size n low high with
  | nil =>
    cases n with
    | zero   => simp [follow, Head.size]
    | succ n => simp [follow] at h
  | cons b r ih =>
    cases n with
    | zero   => simp [follow, Head.size]
    | succ n =>
      simp only [follow] at h ⊢
      split at h
      case isTrue hb =>
        rw [if_pos hb]
        have := ih h
        simp only [List.length_cons]
        omega
      case isFalse hb =>
        rw [if_neg hb]
        simp [Head.size]

/-- What is found at the head, if it is no beginning, takes up one byte at least and lies within
the bytes. -/
theorem head_size_bounds {bs : List UInt8} {x : Head} (h : head bs = x) (hx : x ≠ .incomplete) :
    0 < x.size ∧ x.size ≤ bs.length := by
  subst h
  cases bs with
  | nil => exact absurd rfl hx
  | cons b r =>
    rw [List.length_cons]
    by_cases hb : b.toNat < 0x80
    · simp [head, hb, Head.size]
    cases hl : lead? b with
    | none   => simp [head, hb, hl, Head.size]
    | some l =>
      have hfollow : head (b :: r) = follow l.bits 1 l.following l.low l.high r := by
        simp [head, hb, hl]
      rw [hfollow] at hx ⊢
      have := follow_size hx
      omega

/-! ### Where validation fails -/

/-- How many bytes are malformed where validation fails first; none if no byte is, be the bytes
whole sequences or end inside of one. -/
def malformed? (bytes : List UInt8) : Option Nat :=
  match _ : head bytes with
  | .point _ n   => malformed? (bytes.drop n)
  | .incomplete  => none
  | .malformed n => some n
termination_by bytes.length
decreasing_by
  have := head_size_bounds ‹head bytes = .point _ _› nofun
  simp only [Head.size, List.length_drop] at this ⊢
  omega

/-- The bytes to give up are there, and at least one. -/
theorem malformed?_bounds {bytes : List UInt8} {n : Nat} (h : malformed? bytes = some n) :
    0 < n ∧ n ≤ bytes.length := by
  fun_induction malformed? bytes with
  | case1 bytes p k hk ih =>
    have := ih h
    simp only [List.length_drop] at this
    omega
  | case2 => cases h
  | case3 bytes k hk =>
    cases h
    exact head_size_bounds hk nofun

end Utf8

end TerminalText
