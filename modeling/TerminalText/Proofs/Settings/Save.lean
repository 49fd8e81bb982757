import TerminalText.Proofs.FileTree.Operations
import TerminalText.Settings.File

/-!
# What a save leaves

A save makes directories, writes a file and sets its mode, and each of these may fail.  Under a
plain route none fails after another has changed something: where directories were missing there is
nothing yet at the place of the file, and so nothing that keeps it from being written.

There is one exception, as a name that holds NUL is not looked at before a step is taken for it.  If
it is the last name, the directories above it have been made by then (`save_leaves_directory`).

`save_leaves` says when a save is done, and what stands at every place of the tree afterwards.
-/

namespace TerminalText.Settings

open FileTree (FitNames fault? maxRoute)

variable {s : Settings} {t : FileTree} {d : Path} {n : String}

/-! ### The directories above the file -/

theorem trimEnd_ofPath (p : Path) : (Route.ofPath p).trimEnd = .ofPath p := by
  cases p <;> rfl

theorem parent_ofPath (d : Path) (n : String) : (Route.ofPath (.child d n)).parent = .ofPath d :=
  trimEnd_ofPath d

/-- If the directories are not made, nothing else is done. -/
theorem save_of_fail {e : FileError} (h : t.makeDirectories (.ofPath d) = t.fail e) :
    s.save t (.ofPath (.child d n)) = t.fail e := by
  rw [save, parent_ofPath, h]
  rfl

/-- If they are made, the file is written in the tree that this leaves. -/
theorem save_of_done (h : (t.makeDirectories (.ofPath d)).result = .ok ()) :
    s.save t (.ofPath (.child d n)) =
      ((t.makeDirectories (.ofPath d)).tree.write (encodeText s.toToml)
        (.ofPath (.child d n))).andThen fun t' =>
          (t'.setMode privateMode (.ofPath (.child d n))).done := by
  rw [save, parent_ofPath, FileTree.Outcome.andThen, h]

/-- A NUL on the way: nothing is made. -/
theorem save_of_holdsNul (h : (Route.ofPath d).holdsNul = true) :
    s.save t (.ofPath (.child d n)) = t.fail .nulInName :=
  save_of_fail (FileTree.makeDirectories_of_holdsNul h)

section Fits

variable (hd : FitNames d) (hf : fault? (.ofPath d) = none)

include hd hf

/-- A file on the way: nothing is made. -/
theorem save_of_not_clear (h : ¬ t.Clear d) : ∃ e, s.save t (.ofPath (.child d n)) = t.fail e := by
  obtain ⟨e, he⟩ := FileTree.makeDirectories_of_not_clear hd hf h
  exact ⟨e, save_of_fail he⟩

/-- What holds NUL is found when the file is to be written. -/
theorem save_of_holdsNul_last (h : t.Clear d) (hn : (Route.ofPath (.child d n)).holdsNul = true) :
    (s.save t (.ofPath (.child d n))).result = .error .nulInName ∧
      ∀ q, (s.save t (.ofPath (.child d n))).tree.node q = t.nodeDownTo d q := by
  obtain ⟨hdone, hnode⟩ := FileTree.makeDirectories_of_clear hd hf h
  rw [save_of_done hdone, FileTree.write_of_holdsNul hn]
  exact ⟨rfl, hnode⟩

end Fits

/-! ### The file -/

section File

variable (hp : FitNames (.child d n)) (hf : fault? (.ofPath (.child d n)) = none) (h : t.Clear d)

include hp hf h

/-- A directory in the place of the file: nothing is made. -/
theorem save_of_directory (hx : t.node (.child d n) = some .directory) :
    s.save t (.ofPath (.child d n)) = t.fail .isDirectory := by
  have hd : t.node d = some .directory := t.parent_directory d n (by simp [hx])
  obtain ⟨hdone, hnode⟩ := FileTree.makeDirectories_of_clear hp.1 (FileTree.fault?_of_step hf) h
  have hsame : (t.makeDirectories (.ofPath d)).tree = t := FileTree.eq_of_node fun q =>
    (hnode q).trans (FileTree.nodeDownTo_of_directory hd q)
  have hway := FileTree.walkInto_of_directory hp.1 hd
  have hwrite : t.write (encodeText s.toToml) (.ofPath (.child d n)) = t.fail .isDirectory :=
    FileTree.write_of_directory hf hp.2 hway hx
  rw [save_of_done hdone, hsame, hwrite]
  rfl

/-- Nothing in the way: the file is written, and the directories that were missing are made. -/
theorem save_of_clear (hx : t.node (.child d n) ≠ some .directory) :
    (s.save t (.ofPath (.child d n))).result = .ok () ∧
      ∀ q, (s.save t (.ofPath (.child d n))).tree.node q =
        if q = .child d n then some (.file privateMode (encodeText s.toToml))
        else t.nodeDownTo d q := by
  obtain ⟨hdone, hnode⟩ := FileTree.makeDirectories_of_clear hp.1 (FileTree.fault?_of_step hf) h
  rw [save_of_done hdone]
  generalize (t.makeDirectories (.ofPath d)).tree = t₁ at hnode
  have hd : t₁.node d = some .directory :=
    (hnode d).trans (FileTree.nodeDownTo_self (h d (Path.mem_lineage_self d)))
  have hx₁ : t₁.node (.child d n) ≠ some .directory := by
    rwa [hnode, FileTree.nodeDownTo_child]
  have hway := FileTree.walkInto_of_directory hp.1 hd
  have hwrite : ∃ mode, (t₁.write (encodeText s.toToml) (.ofPath (.child d n))).Puts t₁ (.child d n)
      (.file mode (encodeText s.toToml)) := FileTree.write_puts hf hp.2 hway hx₁
  obtain ⟨mode, hwritten, hnode₂⟩ := hwrite
  rw [FileTree.Outcome.andThen, hwritten]
  generalize (t₁.write (encodeText s.toToml) (.ofPath (.child d n))).tree = t₂ at hnode₂
  have hd₂ : t₂.node d = some .directory := by
    rw [hnode₂, if_neg (Path.ne_child d n), hd]
  have hway₂ := FileTree.walkInto_of_directory hp.1 hd₂
  have hfile : t₂.node (.child d n) = some (.file mode (encodeText s.toToml)) :=
    (hnode₂ _).trans (if_pos rfl)
  refine ⟨rfl, fun q => (FileTree.node_setMode hway₂ hfile q).trans ?_⟩
  by_cases hq : q = .child d n
  · rw [if_pos hq, if_pos hq]
  · rw [if_neg hq, if_neg hq, hnode₂, if_neg hq, hnode]

end File

/-! ### All that can happen -/

/-- What the place of a file has to be for a save: no name holds NUL, no file is in the way, and no
directory stands there. -/
def CanSave (t : FileTree) (d : Path) (n : String) : Prop :=
  (Route.ofPath (.child d n)).holdsNul = false ∧ t.Clear d ∧ t.node (.child d n) ≠ some .directory

/-- The last name holds NUL, and nothing else is amiss until it comes to that name. -/
def FailsLate (t : FileTree) (d : Path) (n : String) : Prop :=
  (Route.ofPath d).holdsNul = false ∧ (Route.ofPath (.child d n)).holdsNul = true ∧ t.Clear d

theorem not_canSave_of_failsLate (h : FailsLate t d n) : ¬ CanSave t d n := fun hcan =>
  Bool.false_ne_true (hcan.1.symm.trans h.2.1)

/-- **What a save comes to**: nothing is changed, or directories are made in vain, or the file is
there. -/
theorem save_cases (s : Settings) (hp : FitNames (.child d n))
    (hsize : (Route.ofPath (.child d n)).size ≤ maxRoute) :
    (¬ CanSave t d n ∧ ¬ FailsLate t d n ∧ ∃ e, s.save t (.ofPath (.child d n)) = t.fail e) ∨
    (FailsLate t d n ∧ (s.save t (.ofPath (.child d n))).result = .error .nulInName ∧
      ∀ q, (s.save t (.ofPath (.child d n))).tree.node q = t.nodeDownTo d q) ∨
    (CanSave t d n ∧ (s.save t (.ofPath (.child d n))).result = .ok () ∧
      ∀ q, (s.save t (.ofPath (.child d n))).tree.node q =
        if q = .child d n then some (.file privateMode (encodeText s.toToml))
        else t.nodeDownTo d q) := by
  have hlonger : (Route.ofPath d).size ≤ maxRoute := by
    simp only [Route.ofPath, Route.size] at hsize
    omega
  cases hnul : (Route.ofPath d).holdsNul with
  | true =>
    have hboth : (Route.ofPath (.child d n)).holdsNul = true := by
      simp only [Route.ofPath, Route.holdsNul, hnul, Bool.true_or]
    exact .inl ⟨fun h => Bool.false_ne_true (h.1.symm.trans hboth),
      fun h => Bool.false_ne_true (h.1.symm.trans hnul), _, save_of_holdsNul hnul⟩
  | false =>
    have hd : fault? (.ofPath d) = none := FileTree.fault?_eq_none_iff.mpr ⟨hnul, hlonger⟩
    by_cases hclear : t.Clear d
    case neg =>
      exact .inl ⟨fun h => hclear h.2.1, fun h => hclear h.2.2, save_of_not_clear hp.1 hd hclear⟩
    cases hlast : (Route.ofPath (.child d n)).holdsNul with
    | true => exact .inr (.inl ⟨⟨hnul, hlast, hclear⟩, save_of_holdsNul_last hp.1 hd hclear hlast⟩)
    | false =>
      have hf : fault? (.ofPath (.child d n)) = none :=
        FileTree.fault?_eq_none_iff.mpr ⟨hlast, hsize⟩
      by_cases hx : t.node (.child d n) = some .directory
      · exact .inl ⟨fun h => h.2.2 hx, fun h => Bool.false_ne_true (hlast.symm.trans h.2.1),
          _, save_of_directory hp hf hclear hx⟩
      · exact .inr (.inr ⟨⟨hlast, hclear, hx⟩, save_of_clear hp hf hclear hx⟩)

/-- **What a save leaves** under a plain route that is within the limits on length.  It is done if
and only if no name holds NUL, no file stands above the place of the settings and no directory at
it.  Then the file of the settings is there, its owner's alone, and so are the directories that were
missing above it, and everything else is as it was.  If it is not done, everything is as it was; but
where NUL is in the last name only, and no file stands above, the missing directories are there. -/
theorem save_leaves (s : Settings) (t : FileTree) {d : Path} {n : String}
    (hp : FitNames (.child d n)) (hsize : (Route.ofPath (.child d n)).size ≤ maxRoute) :
    let r := Route.ofPath (.child d n)
    let o := s.save t r
    (o.result = .ok () ↔
      r.holdsNul = false ∧ t.Clear d ∧ t.node (.child d n) ≠ some .directory) ∧
    (o.result = .ok () → ∀ q, o.tree.node q =
      if q = .child d n then some (.file privateMode (encodeText s.toToml)) else t.nodeDownTo d q) ∧
    (o.result ≠ .ok () → ¬ FailsLate t d n → o.tree = t) ∧
    (FailsLate t d n → ∀ q, o.tree.node q = t.nodeDownTo d q) := by
  intro r o
  rcases save_cases (t := t) s hp hsize with
    ⟨hcan, hlate, e, ho⟩ | ⟨hlate, ho, hnode⟩ | ⟨hcan, ho, hnode⟩
  · have hfail : o.result = .error e := congrArg FileTree.Outcome.result ho
    refine ⟨iff_of_false (hfail ▸ nofun) hcan, fun hdone => ?_,
      fun _ _ => congrArg FileTree.Outcome.tree ho, fun h => absurd h hlate⟩
    cases hfail.symm.trans hdone
  · refine ⟨iff_of_false (ho ▸ nofun) (not_canSave_of_failsLate hlate), fun hdone => ?_,
      fun _ h => absurd hlate h, fun _ => hnode⟩
    cases ho.symm.trans hdone
  · exact ⟨iff_of_true ho hcan, fun _ => hnode, fun h => absurd ho h,
      fun h => absurd hcan (not_canSave_of_failsLate h)⟩

/-- Of two saves in a tree with a file, one makes two directories on its way, and the other finds
the file in the way and makes none. -/
theorem save_leaves_made :
    let t := (FileTree.empty.write [0x23] (.ofPath (.child .root "x"))).tree
    let a := Path.child .root "a"
    let below := Path.child (.child .root "x") "y"
    let made := save {} t (.ofPath (.child (.child a "b") "c.toml"))
    let blocked := save {} t (.ofPath (.child below "c.toml"))
    (FitNames (.child (.child a "b") "c.toml") ∧ FitNames (.child below "c.toml") ∧
      (Route.ofPath (.child (.child a "b") "c.toml")).size ≤ maxRoute ∧
      (Route.ofPath (.child below "c.toml")).size ≤ maxRoute) ∧
    (made.result = .ok () ∧ made.tree.node a = some .directory ∧
      made.tree.node (.child (.child a "b") "c.toml") =
        some (.file privateMode (encodeText (toToml {}))) ∧
      made.tree.node (.child .root "x") = some (.file FileTree.newMode [0x23])) ∧
    blocked.result ≠ .ok () ∧ blocked.tree = t := by
  intro t a below made blocked
  have hmade : FitNames (.child (.child a "b") "c.toml") :=
    ⟨⟨⟨trivial, by decide⟩, by decide⟩, by decide⟩
  have hblocked : FitNames (.child below "c.toml") := ⟨⟨⟨trivial, by decide⟩, by decide⟩, by decide⟩
  have hmadeSize : (Route.ofPath (.child (.child a "b") "c.toml")).size ≤ maxRoute := by decide
  have hblockedSize : (Route.ofPath (.child below "c.toml")).size ≤ maxRoute := by decide
  obtain ⟨hiff, hnode, -, -⟩ := save_leaves {} t hmade hmadeSize
  obtain ⟨hiff', -, hsame, -⟩ := save_leaves {} t hblocked hblockedSize
  have hdone : made.result = .ok () := hiff.mpr (by decide +kernel)
  have hfail : blocked.result ≠ .ok () := mt hiff'.mp (by decide +kernel)
  refine ⟨⟨hmade, hblocked, hmadeSize, hblockedSize⟩, ⟨hdone, ?_, ?_, ?_⟩, hfail, ?_⟩
  · rw [hnode hdone]
    decide +kernel
  · rw [hnode hdone]
    exact if_pos rfl
  · rw [hnode hdone]
    decide +kernel
  · exact hsame hfail fun hlate => by cases hlate.2.1

/-- A save may fail and leave a directory all the same: nothing is in the way, but the last name
holds NUL. -/
theorem save_leaves_directory :
    let d := Path.child .root "d"
    let r := Route.ofPath (.child d "e\x00")
    let o := save {} .empty r
    (r.text = "d/e\x00" ∧ FitNames (.child d "e\x00") ∧ r.size ≤ maxRoute ∧
      FileTree.empty.Clear d ∧ FileTree.empty.node (.child d "e\x00") ≠ some .directory) ∧
    o.result = .error .nulInName ∧ FileTree.empty.node d = none ∧
      o.tree.node d = some .directory := by
  have hfit : FitNames (.child (.child .root "d") "e\x00") := ⟨⟨trivial, by decide⟩, by decide⟩
  have hclear : FileTree.empty.Clear (.child .root "d") := by decide +kernel
  exact ⟨⟨by decide +kernel, hfit, by decide, hclear, by decide +kernel⟩, rfl, by decide +kernel,
    by decide +kernel⟩

end TerminalText.Settings
