/-!
# Places and the routes to them

A `Path` is a place below the root of a tree of files.  Names lead to it from the root down, each
into a directory.

A `Route` is what a user writes to name a place: steps with slashes between them.  A step goes down
to a name, stays, or goes up again, so that many routes lead to one place, and they differ in what
has to be there on the way.  A slash at the end is a last step of nothing.

`Route.ofText` and `Route.text` keep all that is written, and `Route.ofPath` is the plain route to
a place, by names alone.
-/

namespace TerminalText

/-! ### Places -/

/-- A place at the root or below it. -/
inductive Path where
  | root
  | child (parent : Path) (name : String)
  deriving DecidableEq, Repr

namespace Path

/-- The directory that holds the place; the root holds itself. -/
def parent : Path → Path
  | root      => root
  | child p _ => p

/-- How far below the root a place is. -/
def depth : Path → Nat
  | root      => 0
  | child p _ => p.depth + 1

/-- No place stands in itself. -/
theorem ne_child (p : Path) (n : String) : p ≠ child p n := fun h => by
  have := congrArg depth h
  simp [depth] at this

end Path

/-! ### Steps -/

/-- A step on the way to a place. -/
inductive Step where
  /-- Stays; written as nothing between two slashes, or after the last. -/
  | nothing
  /-- Stays; written as one dot. -/
  | here
  /-- Goes to the directory above; written as two dots. -/
  | up
  | name (n : String)
  deriving DecidableEq, Repr

namespace Step

/-- The step that is written so. -/
def ofText : String → Step
  | ""   => nothing
  | "."  => here
  | ".." => up
  | n    => name n

/-- A step as it is written. -/
def text : Step → String
  | nothing => ""
  | here    => "."
  | up      => ".."
  | name n  => n

/-- A step is written again as it was. -/
theorem text_ofText (s : String) : (ofText s).text = s := by
  unfold ofText
  split <;> rfl

/-- Leads nowhere else. -/
def stays : Step → Bool
  | nothing => true
  | here    => true
  | _       => false

end Step

/-! ### Routes -/

/-- The steps from the root to a place. -/
inductive Route where
  | root
  | step (r : Route) (s : Step)
  deriving DecidableEq, Repr

namespace Route

/-- Steps in a row. -/
def ofSteps (steps : List Step) : Route := steps.foldl step root

/-- The steps in a row. -/
def steps : Route → List Step
  | root     => []
  | step r s => r.steps ++ [s]

/-- The route that is written so. -/
def ofText (s : String) : Route := ofSteps ((s.splitOn "/").map Step.ofText)

/-- A route as it is written. -/
def text (r : Route) : String := "/".intercalate (r.steps.map Step.text)

/-- The plain route to a place. -/
def ofPath : Path → Route
  | .root      => root
  | .child p n => step (ofPath p) (.name n)

/-- The route with one more name; a slash at the end is not doubled. -/
def child : Route → String → Route
  | step r .nothing, n => step r (.name n)
  | r,               n => step r (.name n)

/-! ### Parts of a route -/

/-- The route without the slashes at its end. -/
def unslashed : Route → Route
  | step r .nothing => r.unslashed
  | r               => r

/-- A slash ends the route, so that it leads to a directory or nowhere. -/
def isSlashed : Route → Bool
  | step _ .nothing => true
  | _               => false

/-- The route without the steps at its end that stay. -/
def trimEnd : Route → Route
  | root     => root
  | step r s => if s.stays then r.trimEnd else step r s

/-- The route without the steps at its start that stay. -/
def trimStart (r : Route) : Route := ofSteps (r.steps.dropWhile Step.stays)

/-- The route without its last step; steps that stay do not count. -/
def parent (r : Route) : Route :=
  match r.trimEnd with
  | root     => root
  | step q _ => q.trimEnd

/-! ### What a route takes up -/

/-- The bytes of a route, each step after a slash. -/
def size : Route → Nat
  | root     => 0
  | step r s => r.size + 1 + s.text.utf8ByteSize

/-- A NUL stands in one of the steps. -/
def holdsNul : Route → Bool
  | root     => false
  | step r s => r.holdsNul || s.text.toList.contains '\x00'

end Route

end TerminalText
