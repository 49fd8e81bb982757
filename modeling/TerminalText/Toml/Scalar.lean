import TerminalText.Toml.Text
import TerminalText.Toml.Value

/-!
# Reading scalars

Truth values, numbers and points in time.  Each is one word of letters, digits and a few signs,
so that it is settled by the longest word at hand; only between a date and a time there may be a
space.
-/

namespace TerminalText.Toml.Scalar

/-- May stand in a scalar. -/
def isWordChar (c : Char) : Bool :=
  c.isAlphanum || c = '+' || c = '-' || c = '_' || c = '.' || c = ':'

/-! ### Numbers -/

/-- Digits, with single underscores between them. -/
def underscored (digit : Char → Bool) : List Char → Bool
  | []            => false
  | [c]           => digit c
  | c :: '_' :: r => digit c && underscored digit r
  | c :: r        => digit c && underscored digit r

/-- The number that digits stand for; underscores do not count. -/
def valueIn (base : Nat) (s : List Char) : Nat :=
  (s.filterMap Text.hexDigit?).foldl (fun n d => base * n + d) 0

/-- A digit of the octal system. -/
def isOctal (c : Char) : Bool := '0' ≤ c ∧ c ≤ '7'

/-- A digit of the hexadecimal system. -/
def isHex (c : Char) : Bool := (Text.hexDigit? c).isSome

/-- Decimal digits, without a needless zero in front. -/
def isDecimal (s : List Char) : Bool :=
  s = ['0'] || s.head? ≠ some '0' && underscored Char.isDigit s

/-- The greatest integer of 64 bits, one of which is the sign. -/
def maxInteger : Nat := 0x7FFFFFFFFFFFFFFF

/-- An integer of 64 bits. -/
def isInteger : List Char → Bool
  | '0' :: 'x' :: r => underscored isHex r && valueIn 16 r ≤ maxInteger
  | '0' :: 'o' :: r => underscored isOctal r && valueIn 8 r ≤ maxInteger
  | '0' :: 'b' :: r => underscored (fun c => c = '0' ∨ c = '1') r && valueIn 2 r ≤ maxInteger
  | '-' :: r        => isDecimal r && valueIn 10 r ≤ maxInteger + 1
  | '+' :: r        => isDecimal r && valueIn 10 r ≤ maxInteger
  | r               => isDecimal r && valueIn 10 r ≤ maxInteger

/-- A sign in front, if there is one, and what follows it. -/
def splitSign : List Char → Option Char × List Char
  | '+' :: r => (some '+', r)
  | '-' :: r => (some '-', r)
  | r        => (none, r)

/-- Begins the exponent of a number. -/
def isExponentMark (c : Char) : Bool := c = 'e' ∨ c = 'E'

/-- The exponent that a text stands for; no text stands for zero. -/
def exponent? : List Char → Option Int
  | []     => some 0
  | c :: r =>
    let s := splitSign r
    if isExponentMark c && underscored Char.isDigit s.2 then
      some (if s.1 = some '-' then -(valueIn 10 s.2 : Int) else valueIn 10 s.2)
    else none

/-- The least number that no finite double stands for: halfway from the greatest double to the
next power of two, which is 54 bits set, shifted. -/
def infiniteFrom : Nat := 0x3FFFFFFFFFFFFF <<< 970

/-- `digits · 10 ^ e` has no double that is finite. -/
def overflows (digits : List Char) (e : Int) : Bool :=
  let m := valueIn 10 digits
  if m = 0 ∨ e + digits.length < 0 then false
  else if 0 ≤ e then 400 < e || infiniteFrom ≤ m * Nat.pow 10 e.toNat
  else infiniteFrom * Nat.pow 10 (-e).toNat ≤ m

/-- The digits before the point, the digits after it, and what follows them. -/
def splitPoint (s : List Char) : List Char × Option (List Char) × List Char :=
  let whole := s.takeWhile fun c => c ≠ '.' ∧ !isExponentMark c
  match s.dropWhile fun c => c ≠ '.' ∧ !isExponentMark c with
  | '.' :: r =>
    (whole, some (r.takeWhile fun c => !isExponentMark c), r.dropWhile fun c => !isExponentMark c)
  | r        => (whole, none, r)

/-- A number with a fraction or an exponent; a positive one is finite as a double. -/
def isFloat (s : List Char) : Bool :=
  let (sign, body) := splitSign s
  if body = ['i', 'n', 'f'] ∨ body = ['n', 'a', 'n'] then true
  else
    let (whole, fraction, rest) := splitPoint body
    match exponent? rest with
    | none   => false
    | some e =>
      let digits := (whole ++ fraction.getD []).filter Char.isDigit
      let places := (fraction.getD []).filter Char.isDigit
      isDecimal whole && (fraction.isSome || !rest.isEmpty) &&
        (fraction.all (underscored Char.isDigit)) &&
        (sign = some '-' || !overflows digits (e - places.length))

/-! ### Points in time -/

/-- The number of two digits, within bounds. -/
def inBounds (low high : Nat) (a b : Char) : Bool :=
  a.isDigit && b.isDigit && low ≤ valueIn 10 [a, b] && valueIn 10 [a, b] ≤ high

/-- The number of days in a month. -/
def daysIn (year month : Nat) : Nat :=
  if month = 2 then
    if year % 4 = 0 ∧ (year % 100 ≠ 0 ∨ year % 400 = 0) then 29 else 28
  else if month = 4 ∨ month = 6 ∨ month = 9 ∨ month = 11 then 30
  else 31

/-- What follows a date, such as `1979-05-27`. -/
def date? : List Char → Option (List Char)
  | y₁ :: y₂ :: y₃ :: y₄ :: '-' :: m₁ :: m₂ :: '-' :: d₁ :: d₂ :: r =>
    let year := [y₁, y₂, y₃, y₄]
    if year.all Char.isDigit && inBounds 1 12 m₁ m₂ &&
      inBounds 1 (daysIn (valueIn 10 year) (valueIn 10 [m₁, m₂])) d₁ d₂ then some r else none
  | _ => none

/-- What follows a time of day, such as `07:32:00.5`. -/
def time? : List Char → Option (List Char)
  | h₁ :: h₂ :: ':' :: m₁ :: m₂ :: ':' :: s₁ :: s₂ :: r =>
    if inBounds 0 23 h₁ h₂ && inBounds 0 59 m₁ m₂ && inBounds 0 60 s₁ s₂ then
      match r with
      | '.' :: c :: r' => if c.isDigit then some (r'.dropWhile Char.isDigit) else none
      | r              => some r
    else none
  | _ => none

/-- An offset from universal time, or none at all. -/
def isOffset : List Char → Bool
  | []                               => true
  | ['Z']                            => true
  | ['z']                            => true
  | [sign, h₁, h₂, ':', m₁, m₂]      =>
    (sign = '+' || sign = '-') && inBounds 0 23 h₁ h₂ && inBounds 0 59 m₁ m₂
  | _                                => false

/-- A time of day with an offset, if it has one. -/
def isOffsetTime (s : List Char) : Bool := (time? s).any isOffset

/-- A date, a time of day, or both. -/
def isMoment (s : List Char) : Bool :=
  time? s = some [] ||
    match date? s with
    | some []       => true
    | some (c :: r) => (c = 'T' || c = 't') && isOffsetTime r
    | none          => false

/-! ### Any scalar -/

/-- The value of a word. -/
def ofWord (w : List Char) : Option Value :=
  if w = ['t', 'r', 'u', 'e'] then some (.flag true)
  else if w = ['f', 'a', 'l', 's', 'e'] then some (.flag false)
  else if isMoment w then some .moment
  else if isInteger w || isFloat w then some .number
  else none

/-- A scalar and what follows it.  A date takes the time that follows it after a space. -/
def read (s : List Char) : Option (Value × List Char) :=
  let word := s.takeWhile isWordChar
  let rest := s.dropWhile isWordChar
  match date? word, rest with
  | some [], ' ' :: c :: r =>
    if c.isDigit then
      if isOffsetTime ((c :: r).takeWhile isWordChar) then
        some (.moment, (c :: r).dropWhile isWordChar)
      else none
    else some (.moment, rest)
  | _, _ => (ofWord word).map fun v => (v, rest)

/-! ### A scalar takes something -/

theorem length_dropWhile_lt {p : Char → Bool} {s : List Char} (h : s.takeWhile p ≠ []) :
    (s.dropWhile p).length < s.length := by
  have hs := congrArg List.length (List.takeWhile_append_dropWhile (p := p) (l := s))
  have := List.length_pos_iff.2 h
  simp only [List.length_append] at hs
  omega

/-- No scalar is written as nothing. -/
theorem ofWord_nil : ofWord [] = none := by decide

/-- A scalar takes one character at least. -/
theorem length_lt_of_read {s r : List Char} {v : Value} (h : read s = some (v, r)) :
    r.length < s.length := by
  unfold read at h
  dsimp only at h
  split at h
  next c r' hdate hrest =>
    have hlt : (s.dropWhile isWordChar).length < s.length :=
      length_dropWhile_lt fun hnil => by rw [hnil] at hdate; cases hdate
    split at h
    · split at h
      · cases h
        have := length_dropWhile_le isWordChar (c :: r')
        rw [hrest, List.length_cons] at hlt
        omega
      · cases h
    · cases h
      exact hrest ▸ hlt
  next =>
    obtain ⟨w, hw, he⟩ := Option.map_eq_some_iff.1 h
    cases he
    exact length_dropWhile_lt fun hnil => by rw [hnil, ofWord_nil] at hw; cases hw

end TerminalText.Toml.Scalar
