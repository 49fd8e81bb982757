import TerminalText.Proofs.Codepage.Encode
import TerminalText.Proofs.Codepage.Stream

/-!
# A stream, turn by turn

`Codepage.read` goes on with the bytes that are left.  As a loop it keeps all the bytes, and a place
among them: each turn decodes from there on, replaces what can never be decoded and goes on behind
it, and at the end all that comes before the place is taken away.

* `readWithin?` is the loop with nothing granted: it fails where it would look behind the end of the
  bytes, and where it has not ended after a number of turns.
* `turn?_cases`: no turn fails, and one that does not end the loop goes on by a byte at least.  So
  the loop gives what is read, in no more turns than there are bytes (`readWithin?_eq`).
* `leaves_read`: what is held back is the end of the bytes, and incomplete at its head; those before
  it are no fewer than the code points.  Three bytes at most are incomplete
  (`length_le_of_incomplete`).
-/

namespace TerminalText

/-- Of a sequence that is not all there, three bytes may be there. -/
theorem Utf8.Beginning.length_le {bs : List UInt8} (h : Beginning bs) : bs.length ≤ 3 := by
  obtain ⟨-, v, hv, hw⟩ := h
  have hlength := length_encode_le (value (bs ++ v))
  rw [encode_value hw, List.length_append] at hlength
  have hmissing := List.length_pos_iff.mpr hv
  omega

namespace Codepage

/-! ### The loop -/

/-- The bytes from a place on, which there are unless it lies behind their end. -/
def bytesFrom? (bytes : List UInt8) (start : Nat) : Option (List UInt8) :=
  if start ≤ bytes.length then some (bytes.drop start) else none

/-- How far the loop has come. -/
structure Cursor where
  /-- What the bytes before the place gave. -/
  points : List Nat
  /-- The place where the next turn starts. -/
  start : Nat
  deriving DecidableEq, Repr

/-- The cursor behind bytes that gave code points. -/
def Cursor.pass (c : Cursor) (points : List Nat) (size : Nat) : Cursor :=
  ⟨c.points ++ points, c.start + size⟩

/-- How a turn of the loop ends. -/
inductive Turn where
  /-- The loop ends with it. -/
  | done (c : Cursor)
  /-- Another turn comes. -/
  | further (c : Cursor)
  deriving DecidableEq, Repr

/-- How a turn ends that has decoded up to `rest`. -/
def endTurn (cp : Codepage) (rest : List UInt8) (c : Cursor) : Turn :=
  if rest = [] then .done c
  else match cp.malformed? rest with
    | none   => .done c
    | some n => .further (c.pass [CodePoint.replacement] n)

/-- One turn of the loop: it looks at the bytes from its start, and from where decoding ends. -/
def turn? (cp : Codepage) (bytes : List UInt8) (c : Cursor) : Option Turn :=
  (bytesFrom? bytes c.start).bind fun ahead =>
    let run := cp.decode ahead
    let c' := c.pass run.points run.consumed
    (bytesFrom? bytes c'.start).map fun rest => cp.endTurn rest c'

/-- The loop, with so many turns. -/
def loop? (cp : Codepage) (bytes : List UInt8) (turns : Nat) (c : Cursor) : Option Cursor :=
  if c.start < bytes.length then
    match turns with
    | 0         => none
    | turns + 1 => (cp.turn? bytes c).bind fun
      | .done c'    => some c'
      | .further c' => loop? cp bytes turns c'
  else some c

/-- Reads the bytes in so many turns, and holds back those behind the place where the loop ends. -/
def readWithin? (cp : Codepage) (turns : Nat) (bytes : List UInt8) : Option Reading :=
  (cp.loop? bytes turns ⟨[], 0⟩).bind fun c =>
    (bytesFrom? bytes c.start).map fun held => ⟨c.points, held⟩

/-! ### One turn -/

variable {cp : Codepage} {bytes : List UInt8} {c : Cursor}

theorem bytesFrom?_of_le {start : Nat} (h : start ≤ bytes.length) :
    bytesFrom? bytes start = some (bytes.drop start) := if_pos h

/-- What is read from the place of the loop on, with what was given before. -/
def readFrom (cp : Codepage) (bytes : List UInt8) (c : Cursor) : Reading :=
  (cp.read (bytes.drop c.start)).after c.points

/-- A turn that has decoded what it could either ends the loop, or gives up one byte at least of
those that are left. -/
theorem endTurn_cases (cp : Codepage) (rest : List UInt8) (c : Cursor) :
    cp.endTurn rest c = .done c ∧ cp.readRest rest = ⟨[], rest⟩ ∨
    ∃ n, cp.endTurn rest c = .further (c.pass [CodePoint.replacement] n) ∧ 0 < n ∧
      n ≤ rest.length ∧ cp.readRest rest = (cp.read (rest.drop n)).cons CodePoint.replacement := by
  by_cases hrest : rest = []
  · rw [endTurn, readRest, if_pos hrest, if_pos hrest, hrest]
    exact .inl ⟨rfl, rfl⟩
  · rw [endTurn, readRest, if_neg hrest, if_neg hrest]
    cases hm : cp.malformed? rest with
    | none   => exact .inl ⟨rfl, rfl⟩
    | some n =>
      obtain ⟨hn₀, hn⟩ := malformed?_bounds hrest hm
      exact .inr ⟨n, rfl, hn₀, hn, rfl⟩

/-- **A turn of the loop**, from any place within the bytes.  It ends the loop where all is read, or
it goes on, further by a byte at least, and what is read remains the same. -/
theorem turn?_cases (cp : Codepage) (h : c.start ≤ bytes.length) :
    (∃ c', cp.turn? bytes c = some (.done c') ∧ c'.start ≤ bytes.length ∧
      cp.readFrom bytes c = ⟨c'.points, bytes.drop c'.start⟩) ∨
    ∃ c', cp.turn? bytes c = some (.further c') ∧ c.start < c'.start ∧ c'.start ≤ bytes.length ∧
      cp.readFrom bytes c = cp.readFrom bytes c' := by
  -- the turn and the reading both go on from what decoding leaves
  obtain ⟨run, hrun⟩ : ∃ run, cp.decode (bytes.drop c.start) = run := ⟨_, rfl⟩
  have hconsumed := cp.decode_consumed_le (bytes.drop c.start)
  rw [hrun, List.length_drop] at hconsumed
  have hstart : c.start + run.consumed ≤ bytes.length := by omega
  have hturn : cp.turn? bytes c = some (cp.endTurn (bytes.drop (c.start + run.consumed))
      (c.pass run.points run.consumed)) := by
    simp only [turn?, bytesFrom?_of_le h, Option.bind_some, hrun, Cursor.pass,
      bytesFrom?_of_le hstart, Option.map_some]
  have hread : cp.readFrom bytes c =
      ((cp.readRest (bytes.drop (c.start + run.consumed))).after run.points).after c.points := by
    rw [readFrom, read_eq, hrun, List.drop_drop]
  rcases cp.endTurn_cases (bytes.drop (c.start + run.consumed))
      (c.pass run.points run.consumed) with ⟨hend, hrest⟩ | ⟨n, hend, hn₀, hn, hrest⟩
  · refine .inl ⟨c.pass run.points run.consumed, hturn.trans (congrArg some hend), hstart, ?_⟩
    rw [hread, hrest]
    simp only [Cursor.pass, Reading.after, List.append_nil]
  · rw [List.length_drop] at hn
    refine .inr ⟨_, hturn.trans (congrArg some hend), ?_, ?_, ?_⟩
    · show c.start < c.start + run.consumed + n
      omega
    · show c.start + run.consumed + n ≤ bytes.length
      omega
    · rw [hread, hrest]
      simp only [readFrom, Cursor.pass, Reading.after, Reading.cons, List.drop_drop,
        List.append_assoc, List.singleton_append]

/-- A loop that has come to the end gives what it has. -/
theorem readFrom_end (cp : Codepage) (h : bytes.length ≤ c.start) :
    cp.readFrom bytes c = ⟨c.points, bytes.drop c.start⟩ := by
  rw [readFrom, List.drop_of_length_le h, read_nil, Reading.after, List.append_nil]

/-- The loop ends, within the bytes, in no more turns than there are bytes to come, and gives what
is read from its place on. -/
theorem loop?_eq (cp : Codepage) {turns : Nat} (h : c.start ≤ bytes.length)
    (hturns : bytes.length ≤ c.start + turns) : ∃ c', cp.loop? bytes turns c = some c' ∧
      c'.start ≤ bytes.length ∧ cp.readFrom bytes c = ⟨c'.points, bytes.drop c'.start⟩ := by
  induction turns generalizing c with
  | zero => exact ⟨c, if_neg (Nat.not_lt.mpr hturns), h, readFrom_end cp hturns⟩
  | succ turns ih =>
    rw [loop?]
    split
    case isFalse hend => exact ⟨c, rfl, h, readFrom_end cp (Nat.not_lt.mp hend)⟩
    case isTrue =>
      rcases cp.turn?_cases h with ⟨c', hturn, hc', hread⟩ | ⟨c', hturn, hfurther, hc', hread⟩
      · exact ⟨c', by rw [hturn, Option.bind_some], hc', hread⟩
      · rw [hturn, Option.bind_some, hread]
        exact ih hc' (by omega)

/-- With as many turns as there are bytes, the loop gives what is read. -/
theorem readWithin?_eq (cp : Codepage) {turns : Nat} (h : bytes.length ≤ turns) :
    cp.readWithin? turns bytes = some (cp.read bytes) := by
  have hbegin : (⟨[], 0⟩ : Cursor).start ≤ bytes.length := Nat.zero_le _
  obtain ⟨c, hloop, hc, hread⟩ := cp.loop?_eq hbegin (Nat.le_trans h (Nat.le_add_left _ _))
  rw [readWithin?, hloop, Option.bind_some, bytesFrom?_of_le hc, Option.map_some, ← hread]
  rfl

/-! ### What is held back -/

/-- The reading holds back the end of the bytes, incomplete at its head, and has no more code points
than there are bytes before that. -/
structure Leaves (cp : Codepage) (bs : List UInt8) (r : Reading) : Prop where
  suffix : r.held <:+ bs
  length_le : r.points.length + r.held.length ≤ bs.length
  incomplete : cp.head r.held = .incomplete

/-- A code point in front, for a byte or more. -/
theorem Leaves.cons {bs : List UInt8} {r : Reading} {n : Nat} (hn : 0 < n ∧ n ≤ bs.length)
    (h : cp.Leaves (bs.drop n) r) (p : Nat) : cp.Leaves bs (r.cons p) where
  suffix     := h.suffix.trans (List.drop_suffix n bs)
  length_le  := by
    have hlength := h.length_le
    rw [List.length_drop] at hlength
    simp only [Reading.cons, List.length_cons]
    omega
  incomplete := h.incomplete

/-- Reading holds back no more than the end of the bytes, and gives a code point for one byte at
least. -/
theorem leaves_read (cp : Codepage) (bs : List UInt8) : cp.Leaves bs (cp.read bs) := by
  induction bs using head_induction cp with
  | point bs p n h ih =>
    rw [read_of_point h]
    exact ih.cons (size_bounds_of_point h) p
  | malformed bs n h ih =>
    rw [read_of_malformed h]
    exact ih.cons (size_bounds_of_malformed h) _
  | incomplete bs h =>
    rw [read_of_incomplete h]
    exact ⟨List.suffix_rfl, Nat.le_of_eq (Nat.zero_add _), h⟩

/-- What is incomplete is short. -/
theorem length_le_of_incomplete {bs : List UInt8} (h : cp.head bs = .incomplete) :
    bs.length ≤ 3 := by
  by_cases hcp : cp = .utf8
  · subst hcp
    rcases Utf8.head_eq_incomplete_iff.mp h with rfl | hb
    · exact Nat.zero_le _
    · exact hb.length_le
  · rw [eq_nil_of_incomplete hcp h]
    exact Nat.zero_le _

end Codepage

end TerminalText
