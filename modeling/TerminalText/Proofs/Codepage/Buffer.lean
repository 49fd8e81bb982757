import TerminalText.Proofs.Codepage.Encode

/-!
# Where a buffer ends

Encoding into a buffer ends where the buffer is full, and in UTF-8 at what is no scalar value.
Bytes and code points run at different rates: a code point may take none, one or up to four bytes.

Both ways of encoding are runs of writes (`Filled.Run`).  `Filled.Cuts` says that the place reached
is a cut of the encoding: at the start of the buffer stand the bytes of the code points taken up,
whatever comes behind these, and the rest of the buffer is as it was.  It holds before anything is
written, each write keeps it (`Filled.Cuts.write`), and so it holds where a run ends
(`Filled.Run.cuts`).

So whoever has a buffer that is too small can empty it and go on with the code points that are left,
and one with room for the longest sequence of each holds the whole encoding (`encodeInto_cut`).
-/

namespace TerminalText

open CodePoint (IsScalar)

namespace Filled

/-! ### Cuts -/

/-- The code points `done` have been written into `buffer`, from its start and without a trace
behind, and their bytes begin every encoding of which they are the first. -/
structure Cuts (encode : List Nat → List UInt8) (buffer : List UInt8) (done : List Nat)
    (f : Filled) : Prop where
  consumed_eq : f.consumed = done.length
  length_eq : f.buffer.length = buffer.length
  drop_eq : f.buffer.drop f.written = buffer.drop f.written
  encode_append : ∀ ps, encode (done ++ ps) = f.buffer.take f.written ++ encode ps

variable {encode : List Nat → List UInt8} {buffer : List UInt8} {done : List Nat} {f : Filled}

theorem Cuts.start : (Filled.start buffer).Cuts encode buffer [] where
  consumed_eq   := rfl
  length_eq     := rfl
  drop_eq       := rfl
  encode_append := fun _ => rfl

/-- One more code point is written, whose bytes come before those of whatever is behind it. -/
theorem Cuts.write (h : f.Cuts encode buffer done) {p : Nat} {bytes : List UInt8}
    (hp : ∀ ps, encode (p :: ps) = bytes ++ encode ps)
    (hroom : f.written + bytes.length ≤ f.buffer.length) :
    (f.write bytes hroom).Cuts encode buffer (done ++ [p]) where
  consumed_eq   := by
    rw [List.length_append, ← h.consumed_eq]
    rfl
  length_eq     := (length_overwrite hroom).trans h.length_eq
  drop_eq       := by
    rw [drop_write]
    show f.buffer.drop (f.written + bytes.length) = buffer.drop (f.written + bytes.length)
    rw [← List.drop_drop, h.drop_eq, List.drop_drop]
  encode_append := fun ps => by
    rw [take_write, List.append_assoc, List.append_assoc, List.singleton_append, h.encode_append,
      hp]

/-- What has been written is the encoding of what has been taken up. -/
theorem Cuts.take_eq (h : f.Cuts encode buffer done) (hnil : encode [] = []) :
    f.buffer.take f.written = encode done := by
  have hdone := h.encode_append []
  rwa [List.append_nil, hnil, List.append_nil, eq_comm] at hdone

/-- As many bytes are written as the encoding of what has been taken up has. -/
theorem Cuts.written_eq (h : f.Cuts encode buffer done) (hnil : encode [] = []) :
    f.written = (encode done).length := by
  rw [← h.take_eq hnil, List.length_take, Nat.min_eq_left f.written_le]

/-! ### Runs -/

/-- Code points are written one by one, each before the encoding of those behind it, up to one at
which the run `Ends`. -/
inductive Run (encode : List Nat → List UInt8) (Ends : Filled → Nat → Prop) :
    Filled → List Nat → Filled → Prop where
  | ends {f : Filled} {ps : List Nat} (h : ∀ p, ps.head? = some p → Ends f p) :
      Run encode Ends f ps f
  | write {f g : Filled} {p : Nat} {ps : List Nat} {bytes : List UInt8}
      (hp : ∀ qs, encode (p :: qs) = bytes ++ encode qs)
      (hroom : f.written + bytes.length ≤ f.buffer.length)
      (rest : Run encode Ends (f.write bytes hroom) ps g) : Run encode Ends f (p :: ps) g

/-- A run ends at a cut. -/
theorem Run.cuts {Ends : Filled → Nat → Prop} {ps : List Nat} {g : Filled}
    (h : Run encode Ends f ps g) (hf : f.Cuts encode buffer done) :
    ∃ more rest, ps = more ++ rest ∧ g.Cuts encode buffer (done ++ more) ∧
      ∀ p, rest.head? = some p → Ends g p := by
  induction h generalizing done with
  | @ends f ps hends => exact ⟨[], ps, rfl, by rwa [List.append_nil], hends⟩
  | @write f g p ps bytes hp hroom _ ih =>
    obtain ⟨more, rest, rfl, hcuts, hends⟩ := ih (hf.write hp hroom)
    refine ⟨p :: more, rest, rfl, ?_, hends⟩
    rwa [List.append_assoc, List.singleton_append] at hcuts

end Filled

/-! ### The two loops -/

namespace Codepage

theorem encode_nil (cp : Codepage) (default : Option UInt8) : cp.encode default [] = [] := by
  cases cp <;> rfl

/-- Where a buffer is filled so far, the code point is not written any more. -/
def EndsAt (cp : Codepage) (f : Filled) (p : Nat) : Prop :=
  if cp = utf8 then ¬ IsScalar p ∨ f.buffer.length < f.written + (Utf8.encode p).length
  else f.written = f.buffer.length

theorem endsAt_of_ne {cp : Codepage} (h : cp ≠ utf8) {f : Filled} {p : Nat} :
    cp.EndsAt f p ↔ f.written = f.buffer.length := by
  rw [EndsAt, if_neg h]

/-- UTF-8 is written in a run that ends at what is no scalar value or does not fit. -/
theorem run_fill (default : Option UInt8) (f : Filled) (ps : List Nat) :
    Filled.Run (utf8.encode default) utf8.EndsAt f ps (Utf8.fill f ps) := by
  induction ps generalizing f with
  | nil => exact .ends nofun
  | cons p ps ih =>
    rw [Utf8.fill]
    split
    next h =>
      refine .write (fun qs => ?_) h.2 (ih _)
      rw [encode, List.takeWhile_cons_of_pos (by simpa using h.1), List.flatMap_cons]
      rfl
    next h =>
      refine .ends fun q hq => ?_
      obtain rfl : p = q := Option.some.inj hq
      exact (Decidable.not_and_iff_not_or_not.mp h).imp_right Nat.lt_of_not_le

/-- Single bytes are written in a run that ends where the buffer is full. -/
theorem run_fillBytes (cp : Codepage) (h : cp ≠ utf8) (default : Option UInt8) (f : Filled)
    (ps : List Nat) : Filled.Run (cp.encode default) cp.EndsAt f ps
      (fillBytes (byteOr? cp.byteOf? default) f ps) := by
  induction ps generalizing f with
  | nil => exact .ends nofun
  | cons p ps ih =>
    rw [fillBytes]
    split
    next hfull => exact .ends fun _ _ => (endsAt_of_ne h).mpr hfull
    next =>
      refine .write (fun qs => ?_) _ (ih _)
      rw [encode_of_ne h, encode_of_ne h]
      cases hp : byteOr? cp.byteOf? default p with
      | none   => exact List.filterMap_cons_none hp
      | some b => exact List.filterMap_cons_some hp

/-- Encoding into a buffer is a run from its start. -/
theorem run_encodeInto (cp : Codepage) (default : Option UInt8) (ps : List Nat)
    (buffer : List UInt8) : Filled.Run (cp.encode default) cp.EndsAt (.start buffer) ps
      (cp.encodeInto default ps buffer) := by
  cases cp with
  | utf8      => exact run_fill default _ ps
  | raw       => exact run_fillBytes raw nofun default _ ps
  | charset c => exact run_fillBytes (charset c) nofun default _ ps

/-- Encoding into a buffer ends at a cut. -/
theorem cuts_encodeInto (cp : Codepage) (default : Option UInt8) (ps : List Nat)
    (buffer : List UInt8) : ∃ done rest, ps = done ++ rest ∧
      (cp.encodeInto default ps buffer).Cuts (cp.encode default) buffer done ∧
      ∀ p, rest.head? = some p → cp.EndsAt (cp.encodeInto default ps buffer) p :=
  (cp.run_encodeInto default ps buffer).cuts .start

/-! ### Into a buffer -/

/-- With room for the longest sequence, only what ends the encoding ends the run. -/
theorem encode_of_endsAt {cp : Codepage} {f : Filled} {p : Nat} (h : cp.EndsAt f p)
    (hroom : f.written + cp.longest ≤ f.buffer.length) (default : Option UInt8) (ps : List Nat) :
    cp.encode default (p :: ps) = [] := by
  by_cases hcp : cp = utf8
  · subst hcp
    rcases h with hp | hfull
    · rw [encode, List.takeWhile_cons_of_neg (by simpa using hp)]
      rfl
    · have hp := Utf8.length_encode_le p
      simp only [longest] at hroom
      omega
  · have hfull := (endsAt_of_ne hcp).mp h
    rw [longest_of_ne hcp] at hroom
    omega

/-- **Encoding is encoding into a buffer with room enough**, whatever the buffer holds.  So a buffer
whose length is known beforehand does for all of it. -/
theorem written_of_room (cp : Codepage) (default : Option UInt8) {ps : List Nat}
    {buffer : List UInt8} (h : cp.longest * ps.length ≤ buffer.length) :
    let filled := cp.encodeInto default ps buffer
    filled.buffer.take filled.written = cp.encode default ps := by
  intro filled
  obtain ⟨done, rest, rfl, hcuts, hends⟩ := cp.cuts_encodeInto default ps buffer
  suffices hrest : cp.encode default rest = [] by
    rw [hcuts.encode_append, hrest, List.append_nil]
  cases rest with
  | nil => exact cp.encode_nil default
  | cons p rest =>
    refine encode_of_endsAt (hends p rfl) ?_ default rest
    have hwritten : filled.written ≤ cp.longest * done.length :=
      hcuts.written_eq (cp.encode_nil default) ▸ cp.length_encode_le default done
    calc filled.written + cp.longest
      _ ≤ cp.longest * (done.length + 1) := Nat.add_le_add_right hwritten cp.longest
      _ ≤ cp.longest * (done ++ p :: rest).length := by
        refine Nat.mul_le_mul_left _ ?_
        rw [List.length_append, List.length_cons]
        omega
      _ ≤ filled.buffer.length := hcuts.length_eq ▸ h

/-- **A buffer cuts the encoding where it can be resumed.**  Encode code points into any buffer.  It
is not overrun.  At its start are the bytes of the code points consumed, and behind them all is as
it was.  The encoding of all the code points is what was written, followed by that of those left
over.  If some are left over, a line of single bytes has filled the buffer; in UTF-8 the first of
them is no scalar value, or has more bytes than there is room for.  And in a buffer with room for
the longest sequence of each code point the whole encoding is written. -/
theorem encodeInto_cut (cp : Codepage) (default : Option UInt8) (ps : List Nat)
    (buffer : List UInt8) :
    let filled := cp.encodeInto default ps buffer
    (filled.written ≤ buffer.length ∧ filled.consumed ≤ ps.length ∧
      filled.buffer.length = buffer.length) ∧
    filled.buffer.take filled.written = cp.encode default (ps.take filled.consumed) ∧
    filled.buffer.drop filled.written = buffer.drop filled.written ∧
    cp.encode default ps =
      filled.buffer.take filled.written ++ cp.encode default (ps.drop filled.consumed) ∧
    (∀ h : filled.consumed < ps.length,
      (cp ≠ utf8 → filled.written = buffer.length) ∧
      (cp = utf8 → ¬ IsScalar ps[filled.consumed] ∨
        buffer.length - filled.written < (Utf8.encode ps[filled.consumed]).length)) ∧
    (cp.longest * ps.length ≤ buffer.length →
      filled.buffer.take filled.written = cp.encode default ps) := by
  intro filled
  obtain ⟨done, rest, hps, hcuts, hends⟩ := cp.cuts_encodeInto default ps buffer
  have hconsumed : filled.consumed = done.length := hcuts.consumed_eq
  have hlength : filled.buffer.length = buffer.length := hcuts.length_eq
  have htake : ps.take filled.consumed = done := by rw [hps, hconsumed, List.take_left]
  have hdrop : ps.drop filled.consumed = rest := by rw [hps, hconsumed, List.drop_left]
  have hwritten : filled.written ≤ buffer.length := hlength ▸ filled.written_le
  refine ⟨⟨hwritten, ?_, hlength⟩, ?_, hcuts.drop_eq, ?_, fun h => ?_,
    written_of_room cp default⟩
  · rw [hconsumed, hps, List.length_append]
    exact Nat.le_add_right _ _
  · rw [htake]
    exact hcuts.take_eq (cp.encode_nil default)
  · rw [hdrop, ← hcuts.encode_append, ← hps]
  · have hend : cp.EndsAt filled ps[filled.consumed] := by
      refine hends _ ?_
      rw [← hdrop, List.head?_drop, List.getElem?_eq_getElem h]
    refine ⟨fun hne => ?_, fun heq => ?_⟩
    · rw [← hlength]
      exact (endsAt_of_ne hne).mp hend
    · rw [EndsAt, if_pos heq, hlength] at hend
      exact hend.imp_right fun hfull => by omega

/-- A sequence of three bytes does not fit into two; a buffer is full before a code point that has
no byte; and there is room for the longest sequence. -/
theorem encodeInto_cut_short :
    let euro := utf8.encodeInto none [0x41, 0x20AC] [0xEE, 0xEE, 0xEE]
    let font := raw.encodeInto none [0xF041, 0x41] [0xEE]
    let whole := utf8.encodeInto none [0x20AC] [0xEE, 0xEE, 0xEE, 0xEE]
    (euro.consumed < 2 ∧ font.consumed < 2 ∧ utf8.longest * 1 ≤ 4) ∧
      3 - euro.written < (Utf8.encode 0x20AC).length ∧ font.written = 1 ∧
      whole.buffer.take whole.written = [0xE2, 0x82, 0xAC] := by
  intro euro font whole
  have heuro : euro.consumed < 2 := by decide
  have hfont : font.consumed < 2 := by decide
  have hwhole : utf8.longest * 1 ≤ 4 := by decide
  obtain ⟨-, -, -, -, heuroEnds, -⟩ := encodeInto_cut utf8 none [0x41, 0x20AC] [0xEE, 0xEE, 0xEE]
  obtain ⟨-, -, -, -, hfontEnds, -⟩ := encodeInto_cut raw none [0xF041, 0x41] [0xEE]
  obtain ⟨-, -, -, -, -, hall⟩ := encodeInto_cut utf8 none [0x20AC] [0xEE, 0xEE, 0xEE, 0xEE]
  refine ⟨⟨heuro, hfont, hwhole⟩, ?_, (hfontEnds hfont).1 nofun, (hall hwhole).trans (by decide)⟩
  exact ((heuroEnds heuro).2 rfl).resolve_left (not_not_intro (show IsScalar 0x20AC by decide))

end Codepage

end TerminalText
