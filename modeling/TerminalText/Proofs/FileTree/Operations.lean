import TerminalText.Proofs.FileTree

/-!
# What operations leave

Operations on a plain route, one that goes down by names alone, are told by what stands at its place
and above it.

* Directories are made one after the other, and each step may fail.  Yet none is made in vain: what
  keeps one from being made is a file, and a file above is found before anything is made, as nothing
  is missing above a file (`walkInto_ofPath`).  So if there is no file at a place or above it
  (`Clear`), all the directories that were missing are there afterwards, and everything else is as
  it was (`makeDirectories_of_clear`); and if there is one, the tree is as it was
  (`makeDirectories_of_not_clear`).
* Writing and setting a mode put a file at its place and leave everything else (`write_puts`,
  `node_setMode`).
* What holds NUL is refused before the tree is looked at.
-/

namespace TerminalText

namespace Path

/-- A place and all those above it. -/
def lineage : Path → List Path
  | root      => [root]
  | child p n => child p n :: p.lineage

theorem depth_le_of_mem_lineage {p q : Path} (h : q ∈ p.lineage) : q.depth ≤ p.depth := by
  induction p with
  | root =>
    obtain rfl := List.mem_singleton.mp h
    exact Nat.le_refl _
  | child p n ih =>
    rcases List.mem_cons.mp h with rfl | h
    · exact Nat.le_refl _
    · exact Nat.le_succ_of_le (ih h)

theorem mem_lineage_self (p : Path) : p ∈ p.lineage := by
  cases p <;> exact .head _

/-- No place lies above itself. -/
theorem child_not_mem_lineage (p : Path) (n : String) : child p n ∉ p.lineage := fun h =>
  Nat.not_succ_le_self _ (depth_le_of_mem_lineage h)

end Path

namespace FileTree

variable {t : FileTree} {p q : Path} {n : String} {content : List UInt8} {mode : Nat}

/-- Trees in which the same stands everywhere are the same. -/
theorem eq_of_node {t t' : FileTree} (h : ∀ q, t.node q = t'.node q) : t = t' := by
  cases t
  cases t'
  cases funext h
  rfl

/-! ### Files in the way -/

/-- A file stands at a place. -/
def IsFile (t : FileTree) (p : Path) : Prop := ∃ mode content, t.node p = some (.file mode content)

instance (t : FileTree) (p : Path) : Decidable (t.IsFile p) :=
  match h : t.node p with
  | none                      => isFalse fun ⟨_, _, hx⟩ => by cases h.symm.trans hx
  | some .directory           => isFalse fun ⟨_, _, hx⟩ => by cases h.symm.trans hx
  | some (.file mode content) => isTrue ⟨mode, content, h⟩

/-- No file stands at a place or above it. -/
def Clear (t : FileTree) (p : Path) : Prop := ∀ q ∈ p.lineage, ¬ t.IsFile q

instance (t : FileTree) (p : Path) : Decidable (t.Clear p) :=
  inferInstanceAs (Decidable (∀ q ∈ p.lineage, ¬ t.IsFile q))

/-- The way to a place is clear if no file stands there, nor on the way to the directory above. -/
theorem clear_child_iff : t.Clear (.child p n) ↔ ¬ t.IsFile (.child p n) ∧ t.Clear p :=
  List.forall_mem_cons

theorem not_isFile_of_directory (h : t.node p = some .directory) : ¬ t.IsFile p := by
  rintro ⟨mode, content, hx⟩
  cases h.symm.trans hx

theorem not_isFile_of_none (h : t.node p = none) : ¬ t.IsFile p := by
  rintro ⟨mode, content, hx⟩
  cases h.symm.trans hx

/-- Nothing stands below what is no directory. -/
theorem node_child_of_not_directory (h : t.node p ≠ some .directory) : t.node (.child p n) = none :=
  Decidable.of_not_not fun hx => h (t.parent_directory p n hx)

/-- Above a directory there are directories only. -/
theorem node_of_mem_lineage (h : t.node p = some .directory) (hq : q ∈ p.lineage) :
    t.node q = some .directory := by
  induction p with
  | root =>
    rw [List.mem_singleton.mp hq]
    exact h
  | child p n ih =>
    rcases List.mem_cons.mp hq with rfl | hq
    · exact h
    · exact ih (t.parent_directory p n (by simp [h])) hq

/-- Above a directory there are no files. -/
theorem clear_of_directory (h : t.node p = some .directory) : t.Clear p := fun _ hq =>
  not_isFile_of_directory (node_of_mem_lineage h hq)

/-! ### Following a plain route -/

/-- A route is followed into a directory, and then its last step is taken. -/
theorem walk_step (t : FileTree) (r : Route) (s : Step) : t.walk (.step r s) =
    match t.walkInto r with
    | .error e => .error e
    | .ok p    => t.enter p s := by
  rw [walk, walkInto]
  cases t.walk r with
  | error e => rfl
  | ok p    => by_cases h : t.node p = some .directory <;> simp [h]

/-- A plain route leads to its place, if that is a directory.  If not, what is amiss is a file at
the place or above it, if there is one, and else that something is missing. -/
theorem walkInto_ofPath (hp : FitNames p) : t.walkInto (.ofPath p) =
    if t.node p = some .directory then .ok p
    else .error (if t.Clear p then .notFound else .notDirectory) := by
  induction p with
  | root => simp [walkInto, walk, Route.ofPath, t.root_directory]
  | child p n ih =>
    have hwalk : t.walk (.ofPath (.child p n)) = _ := t.walk_step (.ofPath p) (.name n)
    rw [ih hp.1] at hwalk
    rw [walkInto, hwalk]
    by_cases hd : t.node p = some .directory
    · -- the last step is taken, and what stands there decides
      simp only [hd, if_true, enter, if_neg (Nat.not_lt.mpr hp.2)]
      cases hx : t.node (.child p n) with
      | none =>
        have hclear : t.Clear (.child p n) :=
          clear_child_iff.mpr ⟨not_isFile_of_none hx, clear_of_directory hd⟩
        simp [hclear]
      | some x =>
        cases x with
        | directory => simp [hx]
        | file mode content =>
          have hclear : ¬ t.Clear (.child p n) := fun h =>
            h _ (Path.mem_lineage_self _) ⟨mode, content, hx⟩
          simp [hx, hclear]
    · have hx : t.node (.child p n) = none := node_child_of_not_directory hd
      have hclear : t.Clear (.child p n) ↔ t.Clear p := by
        rw [clear_child_iff, and_iff_right (not_isFile_of_none hx)]
      simp [hd, hx, hclear]

theorem walkInto_of_directory (hp : FitNames p) (hd : t.node p = some .directory) :
    t.walkInto (.ofPath p) = .ok p :=
  (walkInto_ofPath hp).trans (if_pos hd)

/-! ### Making a directory -/

/-- An operation that is done, and leaves a node at a place and everything else as it was. -/
def Outcome.Puts (o : Outcome) (t : FileTree) (p : Path) (x : Node) : Prop :=
  o.result = .ok () ∧ ∀ q, o.tree.node q = if q = p then some x else t.node q

variable {r : Route} {e : FileError}

theorem lookup_of_error (hf : fault? (.step r (.name n)) = none) (hr : t.walkInto r = .error e) :
    t.lookup (.step r (.name n)) = .error e := by
  simp only [lookup, hf, walk_step, hr]

/-- A name is found in the directory that the way leads to. -/
theorem lookup_name (hf : fault? (.step r (.name n)) = none) (hn : n.utf8ByteSize ≤ maxName)
    (hr : t.walkInto r = .ok p) {x : Node} (hx : t.node (.child p n) = some x) :
    t.lookup (.step r (.name n)) = .ok x := by
  simp only [lookup, hf, walk_name hr hn (by simp [hx]), hx]

/-- **What making a directory comes to**: the way to it fails, or something is there already, or it
is made. -/
theorem makeDirectory_cases (hf : fault? (.step r (.name n)) = none)
    (hn : n.utf8ByteSize ≤ maxName) :
    (∃ e, t.walkInto r = .error e ∧ t.makeDirectory (.step r (.name n)) = t.fail e) ∨
    (∃ p x, t.walkInto r = .ok p ∧ t.node (.child p n) = some x ∧
      t.makeDirectory (.step r (.name n)) = t.fail .alreadyExists) ∨
    ∃ p, t.walkInto r = .ok p ∧ t.node (.child p n) = none ∧
      (t.makeDirectory (.step r (.name n))).Puts t (.child p n) .directory := by
  rw [makeDirectory, hf]
  simp only [Route.unslashed, makeDirectoryAt]
  split
  next e hr => exact .inl ⟨e, hr, rfl⟩
  next p hr =>
    rw [if_neg (Nat.not_lt.mpr hn)]
    split
    next x hx => exact .inr (.inl ⟨p, x, hr, hx, rfl⟩)
    next hx   => exact .inr (.inr ⟨p, hr, hx, rfl, fun q => rfl⟩)

/-- **What ensuring a directory comes to**: the way to it fails, or a file is there already, or the
directory is there afterwards. -/
theorem ensureDirectory_cases (hf : fault? (.step r (.name n)) = none)
    (hn : n.utf8ByteSize ≤ maxName) :
    (∃ e, t.walkInto r = .error e ∧ t.ensureDirectory (.step r (.name n)) = t.fail e) ∨
    (∃ p, t.walkInto r = .ok p ∧ t.IsFile (.child p n) ∧
      t.ensureDirectory (.step r (.name n)) = t.fail .alreadyExists) ∨
    ∃ p, t.walkInto r = .ok p ∧ ¬ t.IsFile (.child p n) ∧
      (t.ensureDirectory (.step r (.name n))).Puts t (.child p n) .directory := by
  rw [ensureDirectory]
  rcases makeDirectory_cases (t := t) hf hn with
    ⟨e, hr, ho⟩ | ⟨p, x, hr, hx, ho⟩ | ⟨p, hr, hx, ho⟩
  · refine .inl ⟨e, hr, ?_⟩
    have hlost : t.isDirectory (.step r (.name n)) = false := by
      simp only [isDirectory, lookup_of_error hf hr]
    rw [ho, hlost]
    cases e <;> rfl
  · have hfound := lookup_name hf hn hr hx
    cases x with
    | directory =>
      refine .inr (.inr ⟨p, hr, not_isFile_of_directory hx, ?_⟩)
      have hthere : t.isDirectory (.step r (.name n)) = true := by simp only [isDirectory, hfound]
      rw [ho, hthere]
      exact ⟨rfl, fun q => by by_cases hq : q = .child p n <;> simp [fail, done, hq, hx]⟩
    | file mode content =>
      refine .inr (.inl ⟨p, hr, ⟨mode, content, hx⟩, ?_⟩)
      have hother : t.isDirectory (.step r (.name n)) = false := by simp only [isDirectory, hfound]
      rw [ho, hother]
      rfl
  · refine .inr (.inr ⟨p, hr, not_isFile_of_none hx, ?_⟩)
    simp only [ho.1]
    exact ho

section Plain

variable (hp : FitNames (.child p n)) (hf : fault? (.ofPath (.child p n)) = none)

include hp hf

/-- In a directory, ensuring one puts it there, or leaves the one that is there. -/
theorem ensureDirectory_puts (hd : t.node p = some .directory) (hx : ¬ t.IsFile (.child p n)) :
    (t.ensureDirectory (.ofPath (.child p n))).Puts t (.child p n) .directory := by
  have hway := walkInto_of_directory hp.1 hd
  rcases ensureDirectory_cases (t := t) hf hp.2 with
    ⟨e, hr, -⟩ | ⟨p', hr, hfile, -⟩ | ⟨p', hr, -, ho⟩
  · cases hway.symm.trans hr
  · cases hway.symm.trans hr
    exact absurd hfile hx
  · cases hway.symm.trans hr
    exact ho

/-- No directory is made in the place of a file. -/
theorem ensureDirectory_of_isFile (hx : t.IsFile (.child p n)) :
    t.ensureDirectory (.ofPath (.child p n)) = t.fail .alreadyExists := by
  have hd : t.node p = some .directory := by
    obtain ⟨mode, content, hx⟩ := hx
    exact t.parent_directory p n (by simp [hx])
  have hway := walkInto_of_directory hp.1 hd
  rcases ensureDirectory_cases (t := t) hf hp.2 with
    ⟨e, hr, -⟩ | ⟨p', -, -, ho⟩ | ⟨p', hr, hnot, -⟩
  · cases hway.symm.trans hr
  · exact ho
  · cases hway.symm.trans hr
    exact absurd hx hnot

/-- Outside of a directory none is made, and the failure tells whether a file is in the way. -/
theorem ensureDirectory_of_not_directory (hd : t.node p ≠ some .directory) :
    t.ensureDirectory (.ofPath (.child p n)) =
      t.fail (if t.Clear p then .notFound else .notDirectory) := by
  have hway : t.walkInto (.ofPath p) = .error _ := (walkInto_ofPath hp.1).trans (if_neg hd)
  rcases ensureDirectory_cases (t := t) hf hp.2 with ⟨e, hr, ho⟩ | ⟨p', hr, -⟩ | ⟨p', hr, -⟩
  · cases hway.symm.trans hr
    exact ho
  · cases hway.symm.trans hr
  · cases hway.symm.trans hr

end Plain

/-! ### Making all that are missing -/

theorem fault?_eq_none_iff : fault? r = none ↔ r.holdsNul = false ∧ r.size ≤ maxRoute := by
  rw [fault?]
  cases r.holdsNul with
  | true => simp
  | false =>
    by_cases long : maxRoute < r.size
    · simp [long]
    · simp [long, Nat.not_lt.mp long]

/-- A route that is not at fault has no part at fault. -/
theorem fault?_of_step {s : Step} (h : fault? (.step r s) = none) : fault? r = none := by
  rw [fault?_eq_none_iff] at h ⊢
  simp only [Route.holdsNul, Route.size, Bool.or_eq_false_iff] at h
  exact ⟨h.1.1, by omega⟩

/-- What stands at a place once the directories down to another are made. -/
def nodeDownTo (t : FileTree) (p q : Path) : Option Node :=
  if q ∈ p.lineage ∧ t.node q = none then some .directory else t.node q

theorem nodeDownTo_self (h : ¬ t.IsFile p) : t.nodeDownTo p p = some .directory := by
  rw [nodeDownTo]
  cases hx : t.node p with
  | none => simp [Path.mem_lineage_self]
  | some x =>
    cases x with
    | directory => simp
    | file mode content => exact absurd ⟨mode, content, hx⟩ h

theorem nodeDownTo_child (p : Path) (n : String) :
    t.nodeDownTo p (.child p n) = t.node (.child p n) :=
  if_neg fun h => Path.child_not_mem_lineage p n h.1

/-- Down to a directory, none is missing. -/
theorem nodeDownTo_of_directory (h : t.node p = some .directory) (q : Path) :
    t.nodeDownTo p q = t.node q :=
  if_neg fun hq => by cases (node_of_mem_lineage h hq.1).symm.trans hq.2

/-- The directories down to a place are those down to the one above it, and one more. -/
theorem nodeDownTo_child_eq (h : ¬ t.IsFile (.child p n)) (q : Path) :
    t.nodeDownTo (.child p n) q =
      if q = .child p n then some .directory else t.nodeDownTo p q := by
  by_cases hq : q = .child p n
  · rw [if_pos hq, hq]
    exact nodeDownTo_self h
  · simp only [nodeDownTo, Path.lineage, List.mem_cons, hq, false_or, if_false]

/-- Where the directory above is missing, it is made first. -/
theorem makeDirectories_of_missing {s : Step}
    (h : (t.ensureDirectory (.step r s)).result = .error .notFound) :
    t.makeDirectories (.step r s) =
      (t.makeDirectories r).andThen (·.ensureDirectory (.step r s)) := by
  rw [makeDirectories]
  simp only [h]

theorem makeDirectories_of_not_missing {s : Step}
    (h : (t.ensureDirectory (.step r s)).result ≠ .error .notFound) :
    t.makeDirectories (.step r s) = t.ensureDirectory (.step r s) := by
  rw [makeDirectories]
  split
  next hmissing => exact absurd hmissing h
  next => rfl

theorem makeDirectories_of_fail {s : Step} (h : t.ensureDirectory (.step r s) = t.fail e)
    (he : e ≠ .notFound) : t.makeDirectories (.step r s) = t.fail e := by
  have hresult : (t.ensureDirectory (.step r s)).result = .error e := congrArg Outcome.result h
  refine (makeDirectories_of_not_missing ?_).trans h
  rw [hresult]
  exact fun hmissing => he (Except.error.inj hmissing)

/-- **Directories are made where no file is in the way**: all that were missing are there, and
everything else is as it was. -/
theorem makeDirectories_of_clear (hp : FitNames p) (hf : fault? (.ofPath p) = none)
    (h : t.Clear p) : (t.makeDirectories (.ofPath p)).result = .ok () ∧
      ∀ q, (t.makeDirectories (.ofPath p)).tree.node q = t.nodeDownTo p q := by
  induction p with
  | root => exact ⟨rfl, fun q => (nodeDownTo_of_directory t.root_directory q).symm⟩
  | child p n ih =>
    obtain ⟨hfile, habove⟩ := clear_child_iff.mp h
    simp only [nodeDownTo_child_eq hfile]
    by_cases hd : t.node p = some .directory
    · obtain ⟨hdone, hnode⟩ := ensureDirectory_puts hp hf hd hfile
      have hmake : t.makeDirectories (.ofPath (.child p n)) = _ :=
        makeDirectories_of_not_missing (hdone ▸ nofun)
      rw [hmake]
      exact ⟨hdone, fun q => (hnode q).trans (by rw [nodeDownTo_of_directory hd])⟩
    · -- the place above is missing, and is made first
      obtain ⟨hdone, hnode⟩ := ih hp.1 (fault?_of_step hf) habove
      have hmissing := ensureDirectory_of_not_directory hp hf hd
      rw [if_pos habove] at hmissing
      have hmake : t.makeDirectories (.ofPath (.child p n)) = _ :=
        makeDirectories_of_missing (congrArg Outcome.result hmissing)
      have hmade : (t.makeDirectories (.ofPath p)).tree.node p = some .directory :=
        (hnode p).trans (nodeDownTo_self (habove p (Path.mem_lineage_self p)))
      have hnone : (t.makeDirectories (.ofPath p)).tree.node (.child p n) = none :=
        (hnode _).trans ((nodeDownTo_child p n).trans (node_child_of_not_directory hd))
      obtain ⟨hlast, hnodes⟩ := ensureDirectory_puts hp hf hmade (not_isFile_of_none hnone)
      rw [hmake, Outcome.andThen, hdone]
      exact ⟨hlast, fun q => (hnodes q).trans (by rw [hnode])⟩

/-- **Nothing is made where a file is in the way.** -/
theorem makeDirectories_of_not_clear (hp : FitNames p) (hf : fault? (.ofPath p) = none)
    (h : ¬ t.Clear p) : ∃ e, t.makeDirectories (.ofPath p) = t.fail e := by
  cases p with
  | root => exact absurd (clear_of_directory t.root_directory) h
  | child p n =>
    by_cases hfile : t.IsFile (.child p n)
    · exact ⟨_, makeDirectories_of_fail (ensureDirectory_of_isFile hp hf hfile) nofun⟩
    · -- the file is farther above, and so the place above is no directory
      have habove : ¬ t.Clear p := fun habove => h (clear_child_iff.mpr ⟨hfile, habove⟩)
      have hfail := ensureDirectory_of_not_directory hp hf (mt clear_of_directory habove)
      rw [if_neg habove] at hfail
      exact ⟨_, makeDirectories_of_fail hfail nofun⟩

/-! ### Names that hold NUL -/

theorem fault?_of_holdsNul (h : r.holdsNul = true) : fault? r = some .nulInName := by
  rw [fault?, h]
  rfl

/-- No directory is made under a name with NUL. -/
theorem makeDirectories_of_holdsNul (h : r.holdsNul = true) :
    t.makeDirectories r = t.fail .nulInName := by
  cases r with
  | root => cases h
  | step r s =>
    have hmake : t.makeDirectory (.step r s) = t.fail .nulInName := by
      rw [makeDirectory, fault?_of_holdsNul h]
    refine makeDirectories_of_fail ?_ nofun
    rw [ensureDirectory, hmake]
    rfl

/-- No file is written under a name with NUL. -/
theorem write_of_holdsNul (h : r.holdsNul = true) : t.write content r = t.fail .nulInName := by
  rw [write, fault?_of_holdsNul h]

/-! ### Writing -/

theorem write_eq_writeIn (hf : fault? (.step r (.name n)) = none) (hr : t.walkInto r = .ok p) :
    t.write content (.step r (.name n)) = t.writeIn p (walkInto_eq_ok hr) n content := by
  rw [write, hf]
  simp only [Route.unslashed, Route.isSlashed]
  split
  next h => cases hr.symm.trans h
  next h =>
    cases hr.symm.trans h
    rfl

/-- No file is written in the place of a directory. -/
theorem write_of_directory (hf : fault? (.step r (.name n)) = none) (hn : n.utf8ByteSize ≤ maxName)
    (hr : t.walkInto r = .ok p) (hx : t.node (.child p n) = some .directory) :
    t.write content (.step r (.name n)) = t.fail .isDirectory := by
  rw [write_eq_writeIn hf hr, writeIn, if_neg (Nat.not_lt.mpr hn)]
  split
  next => rfl
  next h => cases hx.symm.trans h
  next h => cases hx.symm.trans h

/-- What is no directory is written to. -/
theorem write_puts (hf : fault? (.step r (.name n)) = none) (hn : n.utf8ByteSize ≤ maxName)
    (hr : t.walkInto r = .ok p) (hx : t.node (.child p n) ≠ some .directory) :
    ∃ mode, (t.write content (.step r (.name n))).Puts t (.child p n) (.file mode content) := by
  rw [write_eq_writeIn hf hr, writeIn, if_neg (Nat.not_lt.mpr hn)]
  split
  next h => exact absurd h hx
  next => exact ⟨_, rfl, fun q => rfl⟩
  next => exact ⟨_, rfl, fun q => rfl⟩

/-- Setting the mode of a file changes its mode, and nothing at any other place. -/
theorem node_setMode (hr : t.walkInto r = .ok p) {old : Nat}
    (hx : t.node (.child p n) = some (.file old content)) (q : Path) :
    (t.setMode mode (.step r (.name n))).node q =
      if q = .child p n then some (.file mode content) else t.node q := by
  rw [setMode]
  split
  next h => cases hr.symm.trans h
  next h =>
    cases hr.symm.trans h
    split
    next h =>
      cases hx.symm.trans h
      rfl
    next h => exact absurd hx (h _ _)

end FileTree

end TerminalText
