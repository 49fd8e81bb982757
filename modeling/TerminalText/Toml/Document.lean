import TerminalText.Toml.Value.Read

/-!
# Documents

A document is a row of statements: entries, and headers that say into which table the entries after
them go.  It is read line by line.  A line holds one statement or none, and a comment; the value of
an entry may go on over several lines.

`Document.build` makes the table of a row of statements, and `Document.read` the table of a text.
-/

namespace TerminalText.Toml

/-! ### Statements -/

/-- A statement of a document. -/
inductive Statement where
  | entry (key : Key) (v : Value)
  /-- A header in single brackets. -/
  | table (key : Key)
  /-- A header in double brackets. -/
  | series (key : Key)

namespace Statement

/-- A statement, with what follows it on its line. -/
def read : List Char → Option (Statement × List Char)
  | '[' :: '[' :: r =>
    match Key.read r with
    | some (k, ']' :: ']' :: r') => some (.series k, r')
    | _                          => none
  | '[' :: r        =>
    match Key.read r with
    | some (k, ']' :: r') => some (.table k, r')
    | _                   => none
  | s               => ((Value.pair Value.reader).read s).map fun q => (.entry q.1.1 q.1.2, q.2)

/-- A statement takes one character at least. -/
theorem length_lt_of_read {s r : List Char} {st : Statement} (h : read s = some (st, r)) :
    r.length < s.length := by
  unfold read at h
  split at h
  case h_1 | h_2 =>
    split at h
    next hk =>
      cases h
      have := Key.length_lt_of_read hk
      simp only [List.length_cons] at this ⊢
      omega
    next => cases h
  case h_3 =>
    obtain ⟨q, hq, he⟩ := Option.map_eq_some_iff.1 h
    cases he
    exact Reader.shorter _ hq

/-- A line: the statement on it, if there is one, and the lines that follow. -/
def readLine (s : List Char) : Option (Option Statement × List Char) :=
  match skipBlanks s with
  | []        => some (none, [])
  | '#' :: r  => (lineEnd? (skipComment r)).map fun r' => (none, r')
  | '\n' :: r => some (none, r)
  | '\r' :: r => (newline? ('\r' :: r)).map fun r' => (none, r')
  | s'        => (read s').bind fun q => (finishLine? q.2).map fun r' => (some q.1, r')

/-- A line takes one character at least, so that the lines of a text come to an end. -/
theorem length_lt_of_readLine {s r : List Char} {st : Option Statement} (hs : s ≠ [])
    (h : readLine s = some (st, r)) : r.length < s.length := by
  have hb := length_skipBlanks_le s
  unfold readLine at h
  split at h
  case h_1 =>
    cases h
    exact List.length_pos_iff.2 hs
  case h_2 r₁ hr =>
    obtain ⟨r', hr', he⟩ := Option.map_eq_some_iff.1 h
    cases he
    have h₁ := length_le_of_lineEnd? hr'
    have h₂ := length_skipComment_le r₁
    rw [hr, List.length_cons] at hb
    omega
  case h_3 r₁ hr =>
    cases h
    rw [hr, List.length_cons] at hb
    omega
  case h_4 r₁ hr =>
    obtain ⟨r', hr', he⟩ := Option.map_eq_some_iff.1 h
    cases he
    have := length_lt_of_newline? hr'
    rw [hr] at hb
    omega
  case h_5 =>
    obtain ⟨q, hq, hr⟩ := Option.bind_eq_some_iff.1 h
    obtain ⟨r', hr', he⟩ := Option.map_eq_some_iff.1 hr
    cases he
    have h₁ := length_lt_of_read hq
    have h₂ := length_le_of_finishLine? hr'
    omega

/-- The statements on all lines. -/
def readLines (s : List Char) : Option (List Statement) :=
  if _ : s = [] then some []
  else match _ : readLine s with
    | none         => none
    | some (st, r) => (readLines r).map (st.toList ++ ·)
termination_by s.length
decreasing_by exact length_lt_of_readLine ‹_› ‹_›

end Statement

/-! ### Building -/

/-- A document while it is built: its table, and where the next entries go. -/
structure Document where
  root : Table
  place : List String

namespace Document

/-- Nothing is stated. -/
def empty : Document := ⟨[], []⟩

/-- Takes one statement. -/
def state (d : Document) : Statement → Option Document
  | .entry k v  =>
    (Table.change (Table.insert k.through k.name v) d.place d.root).map fun t =>
      { d with root := t }
  | .table k    =>
    (Table.change (Table.define k.name) k.through d.root).map fun t => ⟨t, k.through ++ [k.name]⟩
  | .series k   =>
    (Table.change (Table.extend k.name) k.through d.root).map fun t => ⟨t, k.through ++ [k.name]⟩

/-- The table that a row of statements makes. -/
def build (statements : List Statement) : Option Table :=
  (statements.foldlM state empty).map root

/-- The text without the mark of byte order that it may start with. -/
def dropMark : List Char → List Char
  | '\uFEFF' :: r => r
  | s              => s

/-- The table that a text describes. -/
def read (s : List Char) : Option Table := (Statement.readLines (dropMark s)).bind build

end Document

end TerminalText.Toml
