import TerminalText.Proofs.Codepage.Decode

/-!
# Streams, piece by piece

`Codepage.read` decodes a run, validates what it leaves once more, and goes on behind what can never
be decoded.  Seen from the head of the bytes it does one thing at a time: it takes a code point,
replaces what is malformed, or ends at what is incomplete (`read_of_point`, `read_of_malformed`,
`read_of_incomplete`).  What holds of all bytes is proved along these three (`head_induction`).

What stands at the head stays when more bytes arrive, unless it is incomplete.  So bytes that are
read in two pieces, the second behind what the first holds back, are read as if they came at once
(`read_append`).
-/

namespace TerminalText

/-- A reading with one more code point in front. -/
def Reading.cons (p : Nat) (r : Reading) : Reading := ⟨p :: r.points, r.held⟩

/-- A reading with what was read before it. -/
def Reading.after (r : Reading) (points : List Nat) : Reading := ⟨points ++ r.points, r.held⟩

namespace Codepage

/-! ### From the head -/

theorem head_append {cp : Codepage} {bs : List UInt8} (h : cp.head bs ≠ .incomplete)
    (t : List UInt8) : cp.head (bs ++ t) = cp.head bs := by
  cases cp with
  | utf8 => exact Utf8.head_append h t
  | raw | charset =>
    cases bs with
    | nil => exact absurd rfl h
    | cons b r => rfl

/-- What is malformed at the head is what validation finds. -/
theorem malformed?_of_head {cp : Codepage} {bs : List UInt8} {n : Nat}
    (h : cp.head bs = .malformed n) : cp.malformed? bs = some n := by
  cases cp with
  | utf8 =>
    rw [malformed?, Utf8.malformed?]
    split
    next hp => rw [head, hp] at h; cases h
    next hi => rw [head, hi] at h; cases h
    next hm => rw [head, hm] at h; cases h; rfl
  | raw => cases bs <;> cases h
  | charset c =>
    cases bs with
    | nil => cases h
    | cons b r =>
      simp only [head] at h
      split at h
      · cases h
      · cases h
        rfl

/-- Only in UTF-8 do bytes wait for more. -/
theorem eq_nil_of_incomplete {cp : Codepage} {bs : List UInt8} (hcp : cp ≠ .utf8)
    (h : cp.head bs = .incomplete) : bs = [] := by
  cases bs with
  | nil => rfl
  | cons b r =>
    cases cp with
    | utf8 => exact absurd rfl hcp
    | raw => cases h
    | charset c =>
      simp only [head] at h
      split at h <;> cases h

/-- Validation finds nothing where bytes are incomplete at the head. -/
theorem malformed?_of_incomplete {cp : Codepage} {bs : List UInt8} (hbs : bs ≠ [])
    (h : cp.head bs = .incomplete) : cp.malformed? bs = none := by
  by_cases hcp : cp = .utf8
  · subst hcp
    rw [malformed?, Utf8.malformed?]
    split
    next hp => rw [head, hp] at h; cases h
    next hi => rfl
    next hm => rw [head, hm] at h; cases h
  · exact absurd (eq_nil_of_incomplete hcp h) hbs

/-- What is read behind a run of code points. -/
def readRest (cp : Codepage) (rest : List UInt8) : Reading :=
  if rest = [] then ⟨[], []⟩
  else match cp.malformed? rest with
    | none   => ⟨[], rest⟩
    | some n => (cp.read (rest.drop n)).cons CodePoint.replacement

theorem read_eq (cp : Codepage) (bs : List UInt8) :
    cp.read bs = (cp.readRest (bs.drop (cp.decode bs).consumed)).after (cp.decode bs).points := by
  rw [read, readRest]
  split
  next h => simp only [Reading.after, List.append_nil]
  next h =>
    split
    next hm => rw [hm]; simp only [Reading.after, List.append_nil]
    next n hm => rw [hm]; rfl

/-- A code point at the head is read, and then what is behind it. -/
theorem read_of_point {cp : Codepage} {bs : List UInt8} {p n : Nat} (h : cp.head bs = .point p n) :
    cp.read bs = (cp.read (bs.drop n)).cons p := by
  rw [read_eq, read_eq cp (bs.drop n), decode_of_point h, List.drop_drop]
  rfl

/-- U+FFFD is read in the place of malformed bytes, and then what is behind them. -/
theorem read_of_malformed {cp : Codepage} {bs : List UInt8} {n : Nat}
    (h : cp.head bs = .malformed n) :
    cp.read bs = (cp.read (bs.drop n)).cons CodePoint.replacement := by
  have hbs : bs ≠ [] := by
    rintro rfl
    cases cp <;> cases h
  rw [read_eq, decode_of_not_point (fun p k => h ▸ nofun), List.drop_zero, readRest, if_neg hbs,
    malformed?_of_head h]
  rfl

/-- A beginning is held back whole. -/
theorem read_of_incomplete {cp : Codepage} {bs : List UInt8} (h : cp.head bs = .incomplete) :
    cp.read bs = ⟨[], bs⟩ := by
  rw [read_eq, decode_of_not_point (fun p k => h ▸ nofun), List.drop_zero, readRest]
  split
  next hbs => rw [hbs]; rfl
  next hbs => rw [malformed?_of_incomplete hbs h]; rfl

theorem read_nil (cp : Codepage) : cp.read [] = ⟨[], []⟩ :=
  read_of_incomplete (by cases cp <;> rfl)

/-- What stands at the head of bytes is taken off, until it is incomplete. -/
@[elab_as_elim]
theorem head_induction (cp : Codepage) {motive : List UInt8 → Prop}
    (point : ∀ bs p n, cp.head bs = .point p n → motive (bs.drop n) → motive bs)
    (malformed : ∀ bs n, cp.head bs = .malformed n → motive (bs.drop n) → motive bs)
    (incomplete : ∀ bs, cp.head bs = .incomplete → motive bs) (bs : List UInt8) : motive bs := by
  induction hlen : bs.length using Nat.strongRecOn generalizing bs with
  | _ len ih =>
    cases h : cp.head bs with
    | point p n =>
      obtain ⟨hn₀, hn⟩ := size_bounds_of_point h
      exact point bs p n h (ih _ (by rw [List.length_drop]; omega) _ rfl)
    | malformed n =>
      obtain ⟨hn₀, hn⟩ := size_bounds_of_malformed h
      exact malformed bs n h (ih _ (by rw [List.length_drop]; omega) _ rfl)
    | incomplete => exact incomplete bs h

/-- The bytes of code points are read as these, and reading goes on with what follows them. -/
theorem read_bytesOf {cp : Codepage} {ps : List Nat} (h : ∀ p ∈ ps, cp.Represents p)
    (r : List UInt8) : cp.read (ps.flatMap cp.bytesOf ++ r) = (cp.read r).after ps := by
  induction ps with
  | nil => rfl
  | cons p ps ih =>
    have hp := head_bytesOf (h p (.head _)) (ps.flatMap cp.bytesOf ++ r)
    rw [List.flatMap_cons, List.append_assoc, read_of_point hp, List.drop_left,
      ih fun q hq => h q (.tail _ hq)]
    rfl

/-! ### In pieces -/

/-- **Bytes that come in two pieces** are read as if they came at once, if the second piece is put
behind what the first holds back. -/
theorem read_append (cp : Codepage) (a b : List UInt8) :
    cp.read (a ++ b) = (cp.read ((cp.read a).held ++ b)).after (cp.read a).points := by
  -- what stands at the head of `a` stands there in `a ++ b` too, and is taken off both
  induction a using head_induction cp with
  | point a p k h ih =>
    have hab := (head_append (h ▸ nofun) b).trans h
    rw [read_of_point h, read_of_point hab,
      List.drop_append_of_le_length (size_bounds_of_point h).2, ih]
    rfl
  | malformed a k h ih =>
    have hab := (head_append (h ▸ nofun) b).trans h
    rw [read_of_malformed h, read_of_malformed hab,
      List.drop_append_of_le_length (size_bounds_of_malformed h).2, ih]
    rfl
  | incomplete a h =>
    rw [read_of_incomplete h]
    rfl

/-- What is held back gives nothing until more bytes arrive. -/
theorem read_held (cp : Codepage) (bs : List UInt8) :
    cp.read (cp.read bs).held = ⟨[], (cp.read bs).held⟩ := by
  have h := read_append cp bs []
  rw [List.append_nil, List.append_nil] at h
  obtain ⟨hpoints, hheld⟩ := Reading.mk.inj h
  exact congrArg₂ Reading.mk (List.self_eq_append_right.mp hpoints) hheld.symm

end Codepage

end TerminalText
