import TerminalText.Toml.Scalar

/-!
# Reading values

A value is a text, a scalar, an array between brackets, or a table between braces.  Arrays and
tables are read by way of a `Reader` for what stands in them, which goes one level less deep.  It
never succeeds on nothing: what follows is shorter than the text (`shorter`), so that whatever reads
on comes to an end.

An array may hold newlines and comments around its elements, and a comma after the last.  A table
between braces may hold neither.
-/

namespace TerminalText.Toml

/-- Reads something from the start of a text, and gives it with what follows. -/
structure Reader (α : Type) where
  read : List Char → Option (α × List Char)
  shorter : ∀ {s a r}, read s = some (a, r) → r.length < s.length

namespace Value

/-! ### Arrays -/

/-- The elements of an array, up to and with its closing bracket. -/
def readElements (element : Reader Value) (s : List Char) : Option (List Value × List Char) :=
  match _ : skipTrivia s with
  | ']' :: r => some ([], r)
  | s'       =>
    match _ : element.read s' with
    | none        => none
    | some (v, r) =>
      match _ : skipTrivia r with
      | ',' :: r' => (readElements element r').map fun q => (v :: q.1, q.2)
      | ']' :: r' => some ([v], r')
      | _         => none
termination_by s.length
decreasing_by
  have h₁ := length_skipTrivia_le s
  have h₂ := element.shorter ‹_›
  have h₃ := length_skipTrivia_le r
  rw [‹skipTrivia r = _›, List.length_cons] at h₃
  simp_all only
  omega

/-- An array takes at least its closing bracket, however little its elements take. -/
theorem length_lt_of_readElements {element : Reader Value} {s r : List Char} {vs : List Value}
    (h : readElements element s = some (vs, r)) : r.length < s.length := by
  fun_induction readElements element s generalizing vs with
  | case1 s r₁ hs =>
    cases h
    have := length_skipTrivia_le s
    rw [hs, List.length_cons] at this
    omega
  | case2 => cases h
  | case3 s v r₁ r₂ hc _ hv ih =>
    obtain ⟨q, hq, he⟩ := Option.map_eq_some_iff.1 h
    cases he
    have h₁ := length_skipTrivia_le s
    have h₂ := element.shorter hv
    have h₃ := length_skipTrivia_le r₁
    have h₄ : q.2.length < r₂.length := ih hq
    rw [hc, List.length_cons] at h₃
    omega
  | case4 s v r₁ r₂ hc _ hv =>
    cases h
    have h₁ := length_skipTrivia_le s
    have h₂ := element.shorter hv
    have h₃ := length_skipTrivia_le r₁
    rw [hc, List.length_cons] at h₃
    omega
  | case5 => cases h

/-- Reads an array after its opening bracket. -/
def elements (element : Reader Value) : Reader (List Value) :=
  ⟨readElements element, length_lt_of_readElements⟩

/-! ### Tables between braces -/

/-- A key, its value, and what follows them. -/
def readPair (value : Reader Value) (s : List Char) : Option ((Key × Value) × List Char) :=
  match Key.read s with
  | some (k, '=' :: r) => (value.read (skipBlanks r)).map fun q => ((k, q.1), q.2)
  | _                  => none

theorem length_lt_of_readPair {value : Reader Value} {s r : List Char} {p : Key × Value}
    (h : readPair value s = some (p, r)) : r.length < s.length := by
  unfold readPair at h
  split at h
  next k r₁ hk =>
    obtain ⟨q, hq, he⟩ := Option.map_eq_some_iff.1 h
    cases he
    have h₁ := Key.length_lt_of_read hk
    have h₂ := length_skipBlanks_le r₁
    have h₃ : q.2.length < _ := value.shorter hq
    rw [List.length_cons] at h₁
    omega
  next => cases h

/-- Reads a key and its value. -/
def pair (value : Reader Value) : Reader (Key × Value) := ⟨readPair value, length_lt_of_readPair⟩

/-- Pairs with commas between them, up to and with the closing brace. -/
def readPairs (pair : Reader (Key × Value)) (s : List Char) :
    Option (List (Key × Value) × List Char) :=
  match _ : pair.read s with
  | none        => none
  | some (p, r) =>
    match _ : skipBlanks r with
    | ',' :: r'    => (readPairs pair r').map fun q => (p :: q.1, q.2)
    | '\x7d' :: r' => some ([p], r')
    | _            => none
termination_by s.length
decreasing_by
  have h₁ := pair.shorter ‹_›
  have h₂ := length_skipBlanks_le r
  rw [‹skipBlanks r = _›, List.length_cons] at h₂
  omega

theorem length_lt_of_readPairs {pair : Reader (Key × Value)} {s r : List Char}
    {ps : List (Key × Value)} (h : readPairs pair s = some (ps, r)) : r.length < s.length := by
  fun_induction readPairs pair s generalizing ps with
  | case1 => cases h
  | case2 s p r₁ hp r₂ hc ih =>
    obtain ⟨q, hq, he⟩ := Option.map_eq_some_iff.1 h
    cases he
    have h₁ := pair.shorter hp
    have h₂ := length_skipBlanks_le r₁
    have h₃ : q.2.length < r₂.length := ih hq
    rw [hc, List.length_cons] at h₂
    omega
  | case3 s p r₁ hp r₂ hc =>
    cases h
    have h₁ := pair.shorter hp
    have h₂ := length_skipBlanks_le r₁
    rw [hc, List.length_cons] at h₂
    omega
  | case4 => cases h

/-- The entries of a table between braces, after the opening one. -/
def readEntries (pair : Reader (Key × Value)) (s : List Char) : Option (Table × List Char) :=
  match skipBlanks s with
  | '\x7d' :: r => some ([], r)
  | _           =>
    match readPairs pair s with
    | none         => none
    | some (ps, r) => (Table.ofEntries ps).map fun t => (t, r)

theorem length_lt_of_readEntries {pair : Reader (Key × Value)} {s r : List Char} {t : Table}
    (h : readEntries pair s = some (t, r)) : r.length < s.length := by
  unfold readEntries at h
  split at h
  next hs =>
    cases h
    have := length_skipBlanks_le s
    rw [hs, List.length_cons] at this
    omega
  next =>
    split at h
    next => cases h
    next hp =>
      obtain ⟨t', _, he⟩ := Option.map_eq_some_iff.1 h
      cases he
      exact length_lt_of_readPairs hp

/-- Reads a table between braces, after the opening one. -/
def entries (pair : Reader (Key × Value)) : Reader Table :=
  ⟨readEntries pair, length_lt_of_readEntries⟩

/-! ### Any value -/

/-- A value, where arrays and tables are read by what is given; without it there is none. -/
def readWith (nested : Option (Reader Value)) (s : List Char) : Option (Value × List Char) :=
  match s with
  | '"' :: _    => (Text.read s).map fun q => (.text (String.ofList q.1), q.2)
  | '\'' :: _   => (Text.read s).map fun q => (.text (String.ofList q.1), q.2)
  | '[' :: r    =>
    nested.bind fun value => ((elements value).read r).map fun q => (.array q.1, q.2)
  | '\x7b' :: r =>
    nested.bind fun value =>
      ((entries (pair value)).read r).map fun q => (.table .inlined q.1, q.2)
  | _           => Scalar.read s

/-- A value takes one character at least, whatever is read within it. -/
theorem length_lt_of_readWith {nested : Option (Reader Value)} {s r : List Char} {v : Value}
    (h : readWith nested s = some (v, r)) : r.length < s.length := by
  unfold readWith at h
  split at h
  case h_1 | h_2 =>
    obtain ⟨q, hq, he⟩ := Option.map_eq_some_iff.1 h
    cases he
    exact Text.length_lt_of_read hq
  case h_3 | h_4 =>
    obtain ⟨value, _, hv⟩ := Option.bind_eq_some_iff.1 h
    obtain ⟨q, hq, he⟩ := Option.map_eq_some_iff.1 hv
    cases he
    exact Nat.lt_succ_of_lt (Reader.shorter _ hq)
  case h_5 => exact Scalar.length_lt_of_read h

/-- Reads a value in which arrays and tables stand within each other no deeper than given. -/
def readerWithin : (depth : Nat) → Reader Value
  | 0     => ⟨readWith none, length_lt_of_readWith⟩
  | d + 1 => ⟨readWith (some (readerWithin d)), length_lt_of_readWith⟩

/-- How deep arrays and tables may stand within each other. -/
def maxDepth : Nat := 79

/-- Reads a value. -/
def reader : Reader Value := readerWithin maxDepth

end Value

end TerminalText.Toml
