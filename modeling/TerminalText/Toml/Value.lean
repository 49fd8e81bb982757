import TerminalText.Toml.Key

/-!
# Values and tables

What a TOML document holds.  Numbers and points in time are checked where they are read and not
kept: only that there was one is known of them afterwards.

Entries and headers add to a table, and a thing is defined only once: what would define it twice is
refused.  A table remembers how it came to be (`Origin`), for that decides what may still be added
to it.

A header leads through tables that are there, through the last table of a series, and through
tables that it implies.  A dotted key leads through tables that only headers below them imply or
that dotted keys made, and the one it ends at has to be of the latter kind.  Neither leads into
a table between braces, which is closed.
-/

namespace TerminalText.Toml

/-- How a table came to be. -/
inductive Origin where
  /-- By a header of its own. -/
  | header
  /-- By the header of a table below it. -/
  | implied
  /-- By a dotted key that leads through it. -/
  | dotted
  /-- Between braces. -/
  | inlined
  deriving DecidableEq, Repr

/-- A value. -/
inductive Value where
  | text (s : String)
  | flag (b : Bool)
  | number
  | moment
  | array (elements : List Value)
  | table (origin : Origin) (entries : List (String × Value))
  /-- Tables under one header in double brackets, which may go on. -/
  | series (tables : List (List (String × Value)))

/-- The entries of a table, in the order in which they came. -/
abbrev Table := List (String × Value)

namespace Table

/-- The value under a key. -/
def get? (key : String) : Table → Option Value
  | []          => none
  | (k, v) :: r => if k = key then some v else get? key r

/-- The table with another value under a key that it has. -/
def set (key : String) (v : Value) : Table → Table
  | []           => []
  | (k, v') :: r => if k = key then (k, v) :: r else (k, v') :: set key v r

/-- The table with one more entry. -/
def add (key : String) (v : Value) (t : Table) : Table := t ++ [(key, v)]

/-- Applies a change to the last table of a series. -/
def changeLast (change : Table → Option Table) : List Table → Option (List Table)
  | []     => none
  | [t]    => (change t).map fun t' => [t']
  | t :: r => (changeLast change r).map (t :: ·)

/-! ### Entries -/

/-- Adds an entry under a key, unless something is there. -/
def insert : (through : List String) → (name : String) → Value → Table → Option Table
  | [],      k, v, t =>
    match t.get? k with
    | none   => some (t.add k v)
    | some _ => none
  | p :: ps, k, v, t =>
    match t.get? p with
    | none                     => (insert ps k v []).map fun s => t.add p (.table .dotted s)
    | some (.table .dotted s)  => (insert ps k v s).map fun s' => t.set p (.table .dotted s')
    | some (.table .implied s) =>
      if ps = [] then none else (insert ps k v s).map fun s' => t.set p (.table .implied s')
    | some (.series ts)        =>
      if ps = [] then none else (changeLast (insert ps k v) ts).map fun ts' => t.set p (.series ts')
    | some _                   => none

/-- Makes a table of entries alone, as between braces. -/
def ofEntries (entries : List (Key × Value)) : Option Table :=
  entries.foldlM (fun t e => t.insert e.1.through e.1.name e.2) []

/-! ### Headers -/

/-- Applies a change to the table that a header leads to. -/
def change (f : Table → Option Table) : (through : List String) → Table → Option Table
  | [],      t => f t
  | p :: ps, t =>
    match t.get? p with
    | none                     => (change f ps []).map fun s => t.add p (.table .implied s)
    | some (.table .inlined _) => none
    | some (.table o s)        => (change f ps s).map fun s' => t.set p (.table o s')
    | some (.series ts)        => (changeLast (change f ps) ts).map fun ts' => t.set p (.series ts')
    | some _                   => none

/-- Defines a table; one that so far was only implied keeps its entries. -/
def define (k : String) (t : Table) : Option Table :=
  match t.get? k with
  | none                     => some (t.add k (.table .header []))
  | some (.table .implied s) => some (t.set k (.table .header s))
  | some _                   => none

/-- Begins a series, or goes on with it by one more table. -/
def extend (k : String) (t : Table) : Option Table :=
  match t.get? k with
  | none              => some (t.add k (.series [[]]))
  | some (.series ts) => some (t.set k (.series (ts ++ [[]])))
  | some _            => none

end Table

end TerminalText.Toml
