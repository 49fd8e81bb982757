/-!
# Blanks, newlines and comments

What stands between the parts of a document.  A newline is a line feed, with or without a carriage
return before it; a carriage return alone is nothing that a document may hold.
-/

namespace TerminalText.Toml

/-- A space or a tab. -/
def isBlank (c : Char) : Bool := c = ' ' ∨ c = '\t'

/-- Any character but the controls; a tab is no control here. -/
def isPlain (c : Char) : Bool := c = '\t' ∨ 0x20 ≤ c.toNat ∧ c.toNat ≠ 0x7F

/-- What follows the blanks. -/
def skipBlanks (s : List Char) : List Char := s.dropWhile isBlank

/-- What follows a newline. -/
def newline? : List Char → Option (List Char)
  | '\n' :: r         => some r
  | '\r' :: '\n' :: r => some r
  | _                 => none

/-- What follows a line of which nothing is left; the last line needs no newline. -/
def lineEnd? : List Char → Option (List Char)
  | [] => some []
  | s  => newline? s

/-- What follows a comment, after its mark: its newline, or the end. -/
def skipComment (s : List Char) : List Char := s.dropWhile isPlain

/-- What follows a line of which only blanks and a comment may be left. -/
def finishLine? (s : List Char) : Option (List Char) :=
  match skipBlanks s with
  | '#' :: r => lineEnd? (skipComment r)
  | r        => lineEnd? r

/-- What follows blanks and newlines. -/
def skipLines : List Char → List Char
  | ' ' :: r          => skipLines r
  | '\t' :: r         => skipLines r
  | '\n' :: r         => skipLines r
  | '\r' :: '\n' :: r => skipLines r
  | s                 => s

theorem length_dropWhile_le (p : Char → Bool) (s : List Char) :
    (s.dropWhile p).length ≤ s.length := (List.dropWhile_sublist p).length_le

theorem length_skipBlanks_le (s : List Char) : (skipBlanks s).length ≤ s.length :=
  length_dropWhile_le isBlank s

theorem length_skipComment_le (s : List Char) : (skipComment s).length ≤ s.length :=
  length_dropWhile_le isPlain s

theorem length_skipLines_le (s : List Char) : (skipLines s).length ≤ s.length := by
  fun_induction skipLines s with
  | case1 r ih | case2 r ih | case3 r ih | case4 r ih => simp only [List.length_cons]; omega
  | case5 => exact Nat.le_refl _

/-- What follows blanks, newlines and comments. -/
def skipTrivia (s : List Char) : List Char :=
  match _ : skipLines s with
  | '#' :: r => skipTrivia (skipComment r)
  | r        => r
termination_by s.length
decreasing_by
  have hl := length_skipLines_le s
  have hd := length_skipComment_le r
  rw [‹skipLines s = _›, List.length_cons] at hl
  omega

/-- Blanks, newlines and comments are skipped, and nothing is put in their place. -/
theorem length_skipTrivia_le (s : List Char) : (skipTrivia s).length ≤ s.length := by
  fun_induction skipTrivia s with
  | case1 s r h ih =>
    have hl := length_skipLines_le s
    have hd := length_skipComment_le r
    rw [h, List.length_cons] at hl
    omega
  | case2 s => exact length_skipLines_le s

/-- A newline takes one character or two. -/
theorem length_lt_of_newline? {s r : List Char} (h : newline? s = some r) :
    r.length < s.length := by
  unfold newline? at h
  split at h <;> cases h <;> simp only [List.length_cons] <;> omega

theorem length_le_of_lineEnd? {s r : List Char} (h : lineEnd? s = some r) :
    r.length ≤ s.length := by
  unfold lineEnd? at h
  split at h
  · cases h
    exact Nat.le_refl _
  · exact Nat.le_of_lt (length_lt_of_newline? h)

theorem length_le_of_finishLine? {s r : List Char} (h : finishLine? s = some r) :
    r.length ≤ s.length := by
  have hb := length_skipBlanks_le s
  unfold finishLine? at h
  split at h
  next r₁ hr =>
    have h₁ := length_le_of_lineEnd? h
    have h₂ := length_skipComment_le r₁
    rw [hr, List.length_cons] at hb
    omega
  next => exact Nat.le_trans (length_le_of_lineEnd? h) hb

end TerminalText.Toml
