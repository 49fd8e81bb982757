import TerminalText.Toml.Text

/-!
# Keys

A key is a row of names with dots between them; a name is bare or stands between quotes.  The names
before the last lead through tables.
-/

namespace TerminalText.Toml

/-- A key: the tables it leads through, and a name in the last of them. -/
structure Key where
  through : List String
  name : String
  deriving DecidableEq, Repr

namespace Key

/-- May stand in a bare name. -/
def isBare (c : Char) : Bool := c.isAlphanum || c = '-' || c = '_'

/-- A name and what follows it. -/
def readName : List Char → Option (List Char × List Char)
  | '"' :: r  => Text.basic r
  | '\'' :: r => Text.literal r
  | c :: r    => if isBare c then some (c :: r.takeWhile isBare, r.dropWhile isBare) else none
  | []        => none

theorem length_lt_of_readName {s t r : List Char} (h : readName s = some (t, r)) :
    r.length < s.length := by
  unfold readName at h
  split at h
  · exact Nat.lt_succ_of_lt (Text.length_lt_of_basic h)
  · exact Nat.lt_succ_of_lt (Text.length_lt_of_literal h)
  · split at h
    · cases h
      exact Nat.lt_succ_of_le (length_dropWhile_le _ _)
    · cases h
  · cases h

/-- Names with dots between them, with blanks around each, and what follows them. -/
def readNames (s : List Char) : Option (List String × List Char) :=
  match _ : readName (skipBlanks s) with
  | none        => none
  | some (t, r) =>
    match _ : skipBlanks r with
    | '.' :: r' => (readNames r').map fun q => (String.ofList t :: q.1, q.2)
    | r'        => some ([String.ofList t], r')
termination_by s.length
decreasing_by
  have h₁ := length_lt_of_readName ‹_›
  have h₂ := length_skipBlanks_le s
  have h₃ := length_skipBlanks_le r
  rw [‹skipBlanks r = _›, List.length_cons] at h₃
  omega

theorem length_lt_of_readNames {s r : List Char} {names : List String}
    (h : readNames s = some (names, r)) : r.length < s.length := by
  fun_induction readNames s generalizing names with
  | case1 => cases h
  | case2 s t r₁ hn r₂ hd ih =>
    obtain ⟨q, hq, he⟩ := Option.map_eq_some_iff.1 h
    cases he
    have h₁ := length_lt_of_readName hn
    have h₂ := length_skipBlanks_le s
    have h₃ := length_skipBlanks_le r₁
    have h₄ : q.2.length < r₂.length := ih hq
    rw [hd, List.length_cons] at h₃
    omega
  | case3 s t r₁ hn _ =>
    cases h
    have h₁ := length_lt_of_readName hn
    have h₂ := length_skipBlanks_le s
    have h₃ := length_skipBlanks_le r₁
    omega

/-- The key of a row of names. -/
def ofNames? (names : List String) : Option Key :=
  names.getLast?.map fun k => ⟨names.dropLast, k⟩

/-- A key has fewer names than this. -/
def maxNames : Nat := 80

/-- A key and what follows it. -/
def read (s : List Char) : Option (Key × List Char) :=
  match readNames s with
  | some (names, r) =>
    if names.length < maxNames then (ofNames? names).map fun k => (k, r) else none
  | none            => none

/-- A key takes one character at least. -/
theorem length_lt_of_read {s r : List Char} {k : Key} (h : read s = some (k, r)) :
    r.length < s.length := by
  unfold read at h
  split at h
  next hn =>
    split at h
    · obtain ⟨k', _, he⟩ := Option.map_eq_some_iff.1 h
      cases he
      exact length_lt_of_readNames hn
    · cases h
  next => cases h

end Key

end TerminalText.Toml
