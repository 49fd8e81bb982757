import TerminalText.CodePoint
import TerminalText.Toml.Lexeme

/-!
# Reading texts

A text stands between double quotes, where a backslash escapes, or between single quotes, where
nothing does.  Between three quotes it may hold newlines, and one or two quotes in a row; a newline
right after the opening quotes is none of its own.

`basic`, `literal` and their multiline twins take what follows the opening quotes, up to and with
the closing ones; `reader` reads a text with all its quotes.
-/

namespace TerminalText.Toml.Text

/-- Stands for itself between double quotes. -/
def isBasic (c : Char) : Bool := isPlain c && c ≠ '"' && c ≠ '\\'

/-- Stands for itself between single quotes. -/
def isLiteral (c : Char) : Bool := isPlain c && c ≠ '\''

/-! ### Escapes -/

/-- The value of a hexadecimal digit. -/
def hexDigit? (c : Char) : Option Nat :=
  if '0' ≤ c ∧ c ≤ '9' then some (c.toNat - 0x30)
  else if 'a' ≤ c ∧ c ≤ 'f' then some (c.toNat - 0x57)
  else if 'A' ≤ c ∧ c ≤ 'F' then some (c.toNat - 0x37)
  else none

/-- The number that so many hexadecimal digits go on to. -/
def hex? : (digits value : Nat) → List Char → Option (Nat × List Char)
  | 0,     v, s      => some (v, s)
  | _ + 1, _, []     => none
  | n + 1, v, c :: r =>
    match hexDigit? c with
    | some d => hex? n (16 * v + d) r
    | none   => none

/-- The character that so many hexadecimal digits name. -/
def named? (digits : Nat) (s : List Char) : Option (Char × List Char) :=
  match hex? digits 0 s with
  | some (n, r) => if CodePoint.IsScalar n then some (Char.ofNat n, r) else none
  | none        => none

/-- The character that is escaped after a backslash. -/
def escape? : List Char → Option (Char × List Char)
  | 'b' :: r  => some ('\x08', r)
  | 't' :: r  => some ('\t', r)
  | 'n' :: r  => some ('\n', r)
  | 'f' :: r  => some ('\x0C', r)
  | 'r' :: r  => some ('\r', r)
  | '"' :: r  => some ('"', r)
  | '\\' :: r => some ('\\', r)
  | 'u' :: r  => named? 4 r
  | 'U' :: r  => named? 8 r
  | _         => none

/-- What follows the end of a line that a backslash joins to the next; blanks and newlines at the
start of the next line do not count. -/
def joined? (s : List Char) : Option (List Char) := (newline? (skipBlanks s)).map skipLines

/-! ### Escapes take something -/

theorem length_le_of_hex? {n v m : Nat} {s r : List Char} (h : hex? n v s = some (m, r)) :
    r.length ≤ s.length := by
  fun_induction hex? n v s with
  | case1 => cases h; exact Nat.le_refl _
  | case2 => cases h
  | case3 n v c s d hd ih => have := ih h; simp only [List.length_cons]; omega
  | case4 => cases h

theorem length_le_of_named? {n : Nat} {c : Char} {s r : List Char} (h : named? n s = some (c, r)) :
    r.length ≤ s.length := by
  unfold named? at h
  split at h
  next hx =>
    split at h
    · cases h; exact length_le_of_hex? hx
    · cases h
  next => cases h

/-- What is written with a backslash takes at least the character after it. -/
theorem length_lt_of_escape? {c : Char} {s r : List Char} (h : escape? s = some (c, r)) :
    r.length < s.length := by
  unfold escape? at h
  split at h
  case h_8 | h_9 => have := length_le_of_named? h; simp only [List.length_cons]; omega
  case h_10      => cases h
  all_goals cases h; exact Nat.lt_succ_self _

/-- Joining a line to the next takes at least the newline between them. -/
theorem length_lt_of_joined? {s r : List Char} (h : joined? s = some r) : r.length < s.length := by
  obtain ⟨t, ht, rfl⟩ := Option.map_eq_some_iff.1 h
  have h₁ := length_lt_of_newline? ht
  have h₂ := length_skipLines_le t
  have h₃ := length_dropWhile_le isBlank s
  simp only [skipBlanks] at h₁
  omega

/-! ### Texts on one line -/

/-- A text up to a double quote. -/
def basic : List Char → Option (List Char × List Char)
  | []        => none
  | '"' :: r  => some ([], r)
  | '\\' :: r =>
    match _ : escape? r with
    | some (c, r') => (basic r').map fun t => (c :: t.1, t.2)
    | none         => none
  | c :: r    => if isBasic c then (basic r).map fun t => (c :: t.1, t.2) else none
termination_by s => s.length
decreasing_by
  · have := length_lt_of_escape? ‹_›
    simp only [List.length_cons]
    omega
  · simp only [List.length_cons]
    omega

/-- A text up to a single quote. -/
def literal : List Char → Option (List Char × List Char)
  | []       => none
  | '\'' :: r => some ([], r)
  | c :: r   => if isLiteral c then (literal r).map fun t => (c :: t.1, t.2) else none

/-! ### Texts on several lines -/

/-- The quotes of the text among those that follow the closing three: up to two. -/
def trailing (quote : Char) : List Char → List Char × List Char
  | a :: b :: r =>
    if a = quote then if b = quote then ([a, b], r) else ([a], b :: r)
    else ([], a :: b :: r)
  | [a]         => if a = quote then ([a], []) else ([], [a])
  | []          => ([], [])

/-- A text up to three double quotes. -/
def multilineBasic : List Char → Option (List Char × List Char)
  | []                      => none
  | '"' :: '"' :: '"' :: r  => some (trailing '"' r)
  | '"' :: r                => (multilineBasic r).map fun t => ('"' :: t.1, t.2)
  | '\\' :: r               =>
    match _ : joined? r with
    | some r' => multilineBasic r'
    | none    =>
      match _ : escape? r with
      | some (c, r') => (multilineBasic r').map fun t => (c :: t.1, t.2)
      | none         => none
  | '\n' :: r               => (multilineBasic r).map fun t => ('\n' :: t.1, t.2)
  | '\r' :: '\n' :: r       => (multilineBasic r).map fun t => ('\n' :: t.1, t.2)
  | c :: r                  =>
    if isBasic c then (multilineBasic r).map fun t => (c :: t.1, t.2) else none
termination_by s => s.length
decreasing_by
  all_goals simp only [List.length_cons]
  · omega
  · have := length_lt_of_joined? ‹_›; omega
  · have := length_lt_of_escape? ‹_›; omega
  · omega
  · omega
  · omega

/-- A text up to three single quotes. -/
def multilineLiteral : List Char → Option (List Char × List Char)
  | []                         => none
  | '\'' :: '\'' :: '\'' :: r  => some (trailing '\'' r)
  | '\'' :: r                  => (multilineLiteral r).map fun t => ('\'' :: t.1, t.2)
  | '\n' :: r                  => (multilineLiteral r).map fun t => ('\n' :: t.1, t.2)
  | '\r' :: '\n' :: r          => (multilineLiteral r).map fun t => ('\n' :: t.1, t.2)
  | c :: r                     =>
    if isLiteral c then (multilineLiteral r).map fun t => (c :: t.1, t.2) else none

/-! ### Every text takes something -/

theorem exists_of_map_cons {c : Char} {o : Option (List Char × List Char)} {t r : List Char}
    (h : (o.map fun q => (c :: q.1, q.2)) = some (t, r)) : ∃ t', o = some (t', r) := by
  obtain ⟨⟨u, v⟩, hu, hv⟩ := Option.map_eq_some_iff.1 h
  cases hv
  exact ⟨u, hu⟩

theorem length_lt_of_basic {s t r : List Char} (h : basic s = some (t, r)) :
    r.length < s.length := by
  fun_induction basic s generalizing t with
  | case1 => cases h
  | case2 => cases h; exact Nat.lt_succ_self _
  | case3 s c r' he ih =>
    obtain ⟨t', ht⟩ := exists_of_map_cons h
    have := ih ht
    have := length_lt_of_escape? he
    simp only [List.length_cons]
    omega
  | case4 => cases h
  | case5 c s _ _ _ ih =>
    obtain ⟨t', ht⟩ := exists_of_map_cons h
    exact Nat.lt_succ_of_lt (ih ht)
  | case6 => cases h

theorem length_lt_of_literal {s t r : List Char} (h : literal s = some (t, r)) :
    r.length < s.length := by
  fun_induction literal s generalizing t with
  | case1 => cases h
  | case2 => cases h; exact Nat.lt_succ_self _
  | case3 c s _ _ ih =>
    obtain ⟨t', ht⟩ := exists_of_map_cons h
    exact Nat.lt_succ_of_lt (ih ht)
  | case4 => cases h

theorem length_trailing_le (q : Char) (s : List Char) : (trailing q s).2.length ≤ s.length := by
  unfold trailing
  repeat' split
  all_goals simp only [List.length_cons]; omega

theorem length_lt_of_multilineBasic {s t r : List Char} (h : multilineBasic s = some (t, r)) :
    r.length < s.length := by
  fun_induction multilineBasic s generalizing t with
  | case1 => cases h
  | case2 s =>
    have hr : r.length ≤ s.length := by
      have := length_trailing_le '"' s
      rwa [Option.some.inj h] at this
    simp only [List.length_cons]
    omega
  | case3 s _ ih | case7 s ih | case9 c s _ _ _ _ _ _ ih =>
    obtain ⟨t', ht⟩ := exists_of_map_cons h
    exact Nat.lt_succ_of_lt (ih ht)
  | case4 s r' hj ih =>
    have := ih h
    have := length_lt_of_joined? hj
    simp only [List.length_cons]
    omega
  | case5 s hj c r' he ih =>
    obtain ⟨t', ht⟩ := exists_of_map_cons h
    have := ih ht
    have := length_lt_of_escape? he
    simp only [List.length_cons]
    omega
  | case6 => cases h
  | case8 s ih =>
    obtain ⟨t', ht⟩ := exists_of_map_cons h
    have := ih ht
    simp only [List.length_cons]
    omega
  | case10 => cases h

theorem length_lt_of_multilineLiteral {s t r : List Char} (h : multilineLiteral s = some (t, r)) :
    r.length < s.length := by
  fun_induction multilineLiteral s generalizing t with
  | case1 => cases h
  | case2 s =>
    have hr : r.length ≤ s.length := by
      have := length_trailing_le '\'' s
      rwa [Option.some.inj h] at this
    simp only [List.length_cons]
    omega
  | case3 s _ ih | case4 s ih | case6 c s _ _ _ _ _ ih =>
    obtain ⟨t', ht⟩ := exists_of_map_cons h
    exact Nat.lt_succ_of_lt (ih ht)
  | case5 s ih =>
    obtain ⟨t', ht⟩ := exists_of_map_cons h
    have := ih ht
    simp only [List.length_cons]
    omega
  | case7 => cases h

/-! ### Any text -/

/-- Drops a newline that stands right at the start. -/
def dropNewline (s : List Char) : List Char := (newline? s).getD s

theorem length_dropNewline_le (s : List Char) : (dropNewline s).length ≤ s.length := by
  unfold dropNewline
  cases h : newline? s with
  | none   => exact Nat.le_refl _
  | some r => exact Nat.le_of_lt (length_lt_of_newline? h)

/-- A text with its quotes, and what follows it. -/
def read : List Char → Option (List Char × List Char)
  | '"' :: '"' :: '"' :: r    => multilineBasic (dropNewline r)
  | '"' :: r                  => basic r
  | '\'' :: '\'' :: '\'' :: r => multilineLiteral (dropNewline r)
  | '\'' :: r                 => literal r
  | _                         => none

/-- A text takes at least its quotes. -/
theorem length_lt_of_read {s t r : List Char} (h : read s = some (t, r)) : r.length < s.length := by
  unfold read at h
  split at h
  next s' =>
    have := length_lt_of_multilineBasic h
    have := length_dropNewline_le s'
    simp only [List.length_cons]
    omega
  next => exact Nat.lt_succ_of_lt (length_lt_of_basic h)
  next s' =>
    have := length_lt_of_multilineLiteral h
    have := length_dropNewline_le s'
    simp only [List.length_cons]
    omega
  next => exact Nat.lt_succ_of_lt (length_lt_of_literal h)
  next => cases h

end TerminalText.Toml.Text
