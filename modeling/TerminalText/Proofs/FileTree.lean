import TerminalText.FileTree

/-!
# A file holds what was written to it

Whatever is put into a tree, a route that could be followed still leads to the same place
(`walk_put`): only nothing or a file is ever replaced, and no way leads through either.  So a file
that was written is found again under the very route it was written to, with its bytes
(`holds_of_write`), and setting its mode changes nothing but the mode (`Holds.setMode`).
-/

namespace TerminalText.FileTree

variable {t : FileTree} {p q : Path} {n : String} {r : Route} {content : List UInt8} {mode : Nat}

/-! ### Following a route -/

/-- Where a step could be followed, the way to it leads to a directory, from which it was taken. -/
theorem walk_step_eq_ok {s : Step} (h : t.walk (.step r s) = .ok q) :
    ∃ p, t.walk r = .ok p ∧ t.node p = some .directory ∧ t.enter p s = .ok q := by
  simp only [walk] at h
  split at h
  · cases h
  next p hp =>
    split at h
    next hd => exact ⟨p, hp, hd, h⟩
    next    => cases h

theorem walk_of_walkInto (h : t.walkInto r = .ok p) : t.walk r = .ok p := by
  unfold walkInto at h
  split at h
  · cases h
  next hq =>
    split at h
    next    => cases h; exact hq
    next    => cases h

theorem walkInto_of_walk (h : t.walk r = .ok p) (hd : t.node p = some .directory) :
    t.walkInto r = .ok p := by
  rw [walkInto, h]
  exact if_pos hd

/-- From a directory a route leads on to a name that is there. -/
theorem walk_name (h : t.walkInto r = .ok p) (hn : n.utf8ByteSize ≤ maxName)
    (hx : t.node (.child p n) ≠ none) : t.walk (.step r (.name n)) = .ok (.child p n) := by
  rw [walk, walk_of_walkInto h]
  simp only [walkInto_eq_ok h, if_true, enter, if_neg (Nat.not_lt.mpr hn), if_neg hx]

/-! ### What is put closes no way -/

section Put

variable {x : Node} {hp : t.node p = some .directory} {hn : t.node (.child p n) ≠ some .directory}

/-- A directory stays one, whatever is put into the tree. -/
theorem node_put_directory (hq : t.node q = some .directory) :
    (t.put p n x hp hn).node q = some .directory := by
  rw [node_put_other, hq]
  rintro rfl
  exact hn hq

theorem node_put_ne_none (hq : t.node q ≠ none) : (t.put p n x hp hn).node q ≠ none := by
  by_cases h : q = .child p n
  · subst h
    rw [node_put_self]
    exact Option.some_ne_none x
  · rw [node_put_other h]
    exact hq

theorem enter_put {a b : Path} {s : Step} (h : t.enter a s = .ok b) :
    (t.put p n x hp hn).enter a s = .ok b := by
  cases s with
  | nothing | here | up => exact h
  | name m =>
    simp only [enter] at h ⊢
    split at h
    · cases h
    next hm =>
      split at h
      · cases h
      next hx => rw [if_neg hm, if_neg (node_put_ne_none hx), h]

/-- **A way stays open** when something is put into the tree. -/
theorem walk_put (h : t.walk r = .ok q) : (t.put p n x hp hn).walk r = .ok q := by
  induction r generalizing q with
  | root => exact h
  | step r s ih =>
    -- the way leads through directories, and none of them is replaced
    obtain ⟨a, hr, hd, hs⟩ := walk_step_eq_ok h
    simp only [walk, ih hr, node_put_directory hd, if_true]
    exact enter_put hs

/-- A route that could be followed can still be followed when something was put into the tree. -/
theorem walkInto_put (h : t.walkInto r = .ok q) : (t.put p n x hp hn).walkInto r = .ok q :=
  walkInto_of_walk (walk_put (walk_of_walkInto h)) (node_put_directory (walkInto_eq_ok h))

end Put

/-! ### Files -/

/-- The route names a file, which has this mode and these bytes. -/
def Holds (t : FileTree) (r : Route) (mode : Nat) (content : List UInt8) : Prop :=
  fault? r = none ∧ ∃ q n p, r = .step q (.name n) ∧ n.utf8ByteSize ≤ maxName ∧
    t.walkInto q = .ok p ∧ t.node (.child p n) = some (.file mode content)

theorem Holds.lookup (h : t.Holds r mode content) : t.lookup r = .ok (.file mode content) := by
  obtain ⟨hf, q, n, p, rfl, hn, hp, hx⟩ := h
  simp only [FileTree.lookup, hf, walk_name hp hn (by simp [hx]), hx]

/-- The bytes that a route holds are read under it. -/
theorem Holds.read (h : t.Holds r mode content) : t.read r = .ok content := by
  rw [FileTree.read, h.lookup]

/-- What is put under a route that leads there is held. -/
theorem holds_put (hf : fault? (.step r (.name n)) = none) (hn : n.utf8ByteSize ≤ maxName)
    (hp : t.walkInto r = .ok p) (hx : t.node (.child p n) ≠ some .directory) :
    (t.put p n (.file mode content) (walkInto_eq_ok hp) hx).Holds (.step r (.name n)) mode
      content :=
  ⟨hf, r, n, p, rfl, hn, walkInto_put hp, node_put_self⟩

/-! ### Operations that are done -/

/-- Where an operation goes on with another and all is done, the other did the rest. -/
theorem Outcome.andThen_eq_ok {o : Outcome} {next : FileTree → Outcome}
    (h : (o.andThen next).result = .ok ()) :
    o.result = .ok () ∧ o.andThen next = next o.tree := by
  unfold Outcome.andThen at h ⊢
  split at h
  next ho => exact ⟨ho, rfl⟩
  next ho =>
    rw [ho] at h
    cases h

theorem fail_ne {o : Outcome} (h : o.result = .ok ()) (e : FileError) : t.fail e ≠ o := by
  rintro rfl
  cases h

/-! ### Writing -/

theorem unslashed_of_not_slashed (h : r.isSlashed = false) : r.unslashed = r := by
  rcases r with _ | ⟨r, s⟩
  · rfl
  · cases s with
    | nothing => cases h
    | here | up | name => rfl

/-- A file was written: its name is not too long, and the tree holds it with some mode. -/
theorem writeIn_eq_ok {hp : t.node p = some .directory} {o : Outcome}
    (ho : t.writeIn p hp n content = o) (h : o.result = .ok ()) :
    n.utf8ByteSize ≤ maxName ∧ ∃ mode hn, o = (t.put p n (.file mode content) hp hn).done := by
  unfold writeIn at ho
  split at ho
  next     => exact absurd ho (fail_ne h _)
  next hlt =>
    refine ⟨Nat.not_lt.mp hlt, ?_⟩
    split at ho
    next => exact absurd ho (fail_ne h _)
    next => exact ⟨_, _, ho.symm⟩
    next => exact ⟨_, _, ho.symm⟩

/-- A file was written: its route ends in a name, in a directory that could be followed to. -/
theorem write_eq_ok {o : Outcome} (ho : t.write content r = o) (h : o.result = .ok ()) :
    fault? r = none ∧ ∃ q n p, ∃ hp : t.walkInto q = .ok p, r = .step q (.name n) ∧
      t.writeIn p (walkInto_eq_ok hp) n content = o := by
  unfold write at ho
  split at ho
  next    => exact absurd ho (fail_ne h _)
  next hf =>
    split at ho
    next        => exact absurd ho (fail_ne h _)
    next q s hr =>
      split at ho
      next      => exact absurd ho (fail_ne h _)
      next p hp =>
        cases s with
        | name n =>
          cases hs : r.isSlashed with
          | true =>
            rw [hs] at ho
            exact absurd ho (fail_ne h _)
          | false =>
            rw [hs] at ho
            exact ⟨hf, q, n, p, hp, (unslashed_of_not_slashed hs).symm.trans hr, ho⟩
        | nothing | here | up => exact absurd ho (fail_ne h _)

/-- **What was written is held.** -/
theorem holds_of_write (h : (t.write content r).result = .ok ()) :
    ∃ mode, (t.write content r).tree.Holds r mode content := by
  obtain ⟨hf, q, n, p, hp, rfl, hw⟩ := write_eq_ok rfl h
  obtain ⟨hn, mode, hx, ho⟩ := writeIn_eq_ok hw h
  rw [ho]
  exact ⟨mode, holds_put hf hn hp hx⟩

/-- **Setting the mode** of a file changes nothing but its mode. -/
theorem Holds.setMode (h : t.Holds r mode content) (m : Nat) :
    (t.setMode m r).Holds r m content := by
  obtain ⟨hf, q, n, p, rfl, hn, hp, hx⟩ := h
  unfold FileTree.setMode
  split
  next hr =>
    cases hr
    split
    next hp' => cases hp.symm.trans hp'
    next hp' =>
      cases hp.symm.trans hp'
      split
      next hx' =>
        cases hx.symm.trans hx'
        exact holds_put hf hn hp (by simp [hx])
      next hx' => exact absurd hx (hx' _ _)
  next hr => exact absurd rfl (hr q n)

end TerminalText.FileTree
