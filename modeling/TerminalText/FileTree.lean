import TerminalText.FileTree.Route

/-!
# Trees of files

A tree says what stands at each place below its root: nothing, a directory, or a file with its mode
and its bytes.  The root is a directory, and nothing stands below anything but a directory.

The operations take routes, follow them step by step (`walk`), and fail as those of an operating
system do.  An operation that fails still leaves a tree, so that its `Outcome` holds both
the tree and the result.

Whatever is put into a tree goes into a directory (`put`), so that no operation can leave a tree in
which something stands below a file.
-/

namespace TerminalText

/-! ### Trees -/

/-- What stands at a place. -/
inductive Node where
  | directory
  | file (mode : Nat) (content : List UInt8)
  deriving DecidableEq, Repr

/-- A tree of directories and files. -/
structure FileTree where
  node : Path → Option Node
  root_directory : node .root = some .directory
  parent_directory : ∀ p n, node (.child p n) ≠ none → node p = some .directory

/-- Why an operation on files fails. -/
inductive FileError where
  | notFound
  | alreadyExists
  | notDirectory
  | isDirectory
  | nameTooLong
  | nulInName
  deriving DecidableEq, Repr

/-- The words for an error; all but one are those of the operating system. -/
def FileError.message : FileError → String
  | notFound      => "No such file or directory (os error 2)"
  | alreadyExists => "File exists (os error 17)"
  | notDirectory  => "Not a directory (os error 20)"
  | isDirectory   => "Is a directory (os error 21)"
  | nameTooLong   => "File name too long (os error 36)"
  | nulInName     => "file name contained an unexpected NUL byte"

namespace FileTree

/-- The tree of nothing but its root. -/
def empty : FileTree where
  node p := if p = .root then some .directory else none
  root_directory := rfl
  parent_directory p n h := by simp at h

/-- Puts a node into a directory, in the place of nothing or of a file. -/
def put (t : FileTree) (p : Path) (n : String) (x : Node) (hp : t.node p = some .directory)
    (hn : t.node (.child p n) ≠ some .directory) : FileTree where
  node q := if q = .child p n then some x else t.node q
  root_directory := by simp [t.root_directory]
  parent_directory q m h := by
    by_cases e : Path.child q m = .child p n
    · cases e
      rw [if_neg (Path.ne_child _ _)]
      exact hp
    · rw [if_neg e] at h
      have hq := t.parent_directory q m h
      have hne : q ≠ .child p n := fun hqe => hn (hqe ▸ hq)
      rw [if_neg hne]
      exact hq

/-- What is put at a place stands there. -/
theorem node_put_self {t : FileTree} {p : Path} {n : String} {x : Node} {hp hn} :
    (t.put p n x hp hn).node (.child p n) = some x := by simp [put]

/-- At every other place there stands what stood there before. -/
theorem node_put_other {t : FileTree} {p : Path} {n : String} {x : Node} {hp hn} {q : Path}
    (h : q ≠ .child p n) : (t.put p n x hp hn).node q = t.node q := by simp [put, h]

/-! ### Following a route -/

/-- The most bytes of one name. -/
def maxName : Nat := 255

/-- The most bytes of a route. -/
def maxRoute : Nat := 4095

/-- What is wrong with a route, whatever stands in the tree. -/
def fault? (r : Route) : Option FileError :=
  if r.holdsNul then some .nulInName
  else if maxRoute < r.size then some .nameTooLong
  else none

/-- Takes a step from a directory. -/
def enter (t : FileTree) (p : Path) : Step → Except FileError Path
  | .nothing => .ok p
  | .here    => .ok p
  | .up      => .ok p.parent
  | .name n  =>
    if maxName < n.utf8ByteSize then .error .nameTooLong
    else if t.node (.child p n) = none then .error .notFound
    else .ok (.child p n)

/-- Follows a route, through directories only. -/
def walk (t : FileTree) : Route → Except FileError Path
  | .root     => .ok .root
  | .step r s =>
    match t.walk r with
    | .error e => .error e
    | .ok p    => if t.node p = some .directory then t.enter p s else .error .notDirectory

/-- Follows a route to a directory, from which one more step can be taken. -/
def walkInto (t : FileTree) (r : Route) : Except FileError Path :=
  match t.walk r with
  | .error e => .error e
  | .ok p    => if t.node p = some .directory then .ok p else .error .notDirectory

/-- A route that is followed into a directory leads to one. -/
theorem walkInto_eq_ok {t : FileTree} {r : Route} {p : Path} (h : t.walkInto r = .ok p) :
    t.node p = some .directory := by
  unfold walkInto at h
  split at h
  · cases h
  · split at h
    next hp => cases h; exact hp
    next    => cases h

/-- No name on the way to a place is too long. -/
def FitNames : Path → Prop
  | .root      => True
  | .child p n => FitNames p ∧ n.utf8ByteSize ≤ maxName

/-! ### Looking -/

/-- What stands where a route leads to. -/
def lookup (t : FileTree) (r : Route) : Except FileError Node :=
  match fault? r with
  | some e => .error e
  | none   =>
    match t.walk r with
    | .error e => .error e
    | .ok p    =>
      match t.node p with
      | some x => .ok x
      | none   => .error .notFound

/-- The route leads to a directory. -/
def isDirectory (t : FileTree) (r : Route) : Bool :=
  match t.lookup r with
  | .ok .directory => true
  | _              => false

/-- The bytes of a file. -/
def read (t : FileTree) (r : Route) : Except FileError (List UInt8) :=
  match t.lookup r with
  | .error e              => .error e
  | .ok .directory        => .error .isDirectory
  | .ok (.file _ content) => .ok content

/-! ### Operations -/

/-- What an operation leaves: the tree, and whether it was done. -/
structure Outcome where
  tree : FileTree
  result : Except FileError Unit

/-- Goes on with the tree if the operation was done. -/
def Outcome.andThen (o : Outcome) (next : FileTree → Outcome) : Outcome :=
  match o.result with
  | .ok ()   => next o.tree
  | .error _ => o

/-- The operation is done. -/
def done (t : FileTree) : Outcome := ⟨t, .ok ()⟩

/-- The operation fails and leaves the tree as it is. -/
def fail (t : FileTree) (e : FileError) : Outcome := ⟨t, .error e⟩

/-- Makes a directory in a directory, once the way to it is settled. -/
def makeDirectoryAt (t : FileTree) : Route → Outcome
  | .root     => t.fail .alreadyExists
  | .step r s =>
    match hp : t.walkInto r with
    | .error e => t.fail e
    | .ok p    =>
      match s with
      | .name n =>
        if maxName < n.utf8ByteSize then t.fail .nameTooLong
        else match hn : t.node (.child p n) with
          | some _ => t.fail .alreadyExists
          | none   => (t.put p n .directory (walkInto_eq_ok hp) (by simp [hn])).done
      | _       => t.fail .alreadyExists

/-- Makes a directory in a directory; a slash may end its name. -/
def makeDirectory (t : FileTree) (r : Route) : Outcome :=
  match fault? r with
  | some e => t.fail e
  | none   => t.makeDirectoryAt r.unslashed

/-- Makes a directory, unless it is there. -/
def ensureDirectory (t : FileTree) (r : Route) : Outcome :=
  let o := t.makeDirectory r
  match o.result with
  | .error .alreadyExists => if t.isDirectory r then t.done else o
  | _                     => o

/-- Makes a directory and those on the way that are missing, unless they are there. -/
def makeDirectories (t : FileTree) : Route → Outcome
  | .root     => t.done
  | .step r s =>
    let o := t.ensureDirectory (r.step s)
    match o.result with
    | .error .notFound => (t.makeDirectories r).andThen (·.ensureDirectory (r.step s))
    | _                => o

/-- The mode of a file that is new. -/
def newMode : Nat := 0o644

/-- Writes a file in a directory, in the place of what it held.  A file that was there keeps its
mode. -/
def writeIn (t : FileTree) (p : Path) (hp : t.node p = some .directory) (n : String)
    (content : List UInt8) : Outcome :=
  if maxName < n.utf8ByteSize then t.fail .nameTooLong
  else match hn : t.node (.child p n) with
    | some .directory     => t.fail .isDirectory
    | some (.file mode _) => (t.put p n (.file mode content) hp (by simp [hn])).done
    | none                => (t.put p n (.file newMode content) hp (by simp [hn])).done

/-- Writes a file.  A route that ends in a slash, or in a step that is no name, is taken for that
of a directory. -/
def write (t : FileTree) (content : List UInt8) (r : Route) : Outcome :=
  match fault? r with
  | some e => t.fail e
  | none   =>
    match r.unslashed with
    | .root     => t.fail .isDirectory
    | .step q s =>
      match hp : t.walkInto q with
      | .error e => t.fail e
      | .ok p    =>
        match s with
        | .name n =>
          if r.isSlashed then t.fail .isDirectory else t.writeIn p (walkInto_eq_ok hp) n content
        | _       => t.fail .isDirectory

/-- Sets the mode of a file; what is no file stays as it is. -/
def setMode (t : FileTree) (mode : Nat) : Route → FileTree
  | .step r (.name n) =>
    match hp : t.walkInto r with
    | .error _ => t
    | .ok p    =>
      match hn : t.node (.child p n) with
      | some (.file _ content) =>
        t.put p n (.file mode content) (walkInto_eq_ok hp) (by simp [hn])
      | _                      => t
  | _                 => t

end FileTree

end TerminalText
