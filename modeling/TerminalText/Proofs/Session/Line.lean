import TerminalText.Proofs.Session.Stream
import TerminalText.Proofs.Translation

/-!
# What a line shows

A session has two ways from bytes to code points, the table of its line and its stream, and one way
back, the encoding of text that is typed.

* `run_translated`: where bytes are read by themselves, the stream gives what the table shows of
  each, however it is cut, and no byte is ever held back.
* `run_encodeInput`: what is typed and comes back over the line is shown as it was typed, in UTF-8,
  and elsewhere with the default byte in the place of what the line cannot carry.

The first holds at any time of a session, for nothing is held back that is not UTF-8
(`held_of_waits`).  The second rests on it, as the default byte may be one that stands for nothing:
the table shows U+FFFD for it, and so does the stream.
-/

namespace TerminalText

open Translation (lineEntry)

namespace Session

/-! ### The tables of a session -/

/-- The codepage of the line is that of the font where the settings name none for the line. -/
theorem codepage_eq (s : Session) :
    s.codepage = if s.settings.line.isRaw then s.settings.font else s.settings.line := by
  rw [codepage, s.translation_eq]
  rfl

/-- The table of the line is made from the codepage in force. -/
theorem translate_line (s : Session) (b : UInt8) :
    s.translation.translate b .line = lineEntry s.codepage b := by
  rw [codepage, s.translation_eq]
  exact Translation.translate_build _ _ _ b

/-- The table of controls is made from that of the line. -/
theorem isControl_iff (s : Session) (b : UInt8) :
    s.translation.isControl b = true ↔ Translation.IsControl (lineEntry s.codepage b) := by
  rw [codepage, s.translation_eq]
  exact Translation.isControl_build _ _ _ b

/-! ### Bytes that are read by themselves -/

theorem run_waits {s : Session} (h : s.Waits) (qs : List Request) : (s.run qs).1.Waits := by
  induction qs generalizing s with
  | nil => exact h
  | cons q qs ih => exact ih (perform_waits h q)

/-- Only UTF-8 has bytes that wait. -/
theorem held_of_waits {s : Session} (h : s.Waits) (hcp : s.codepage ≠ .utf8) : s.held = [] := by
  rw [Waits, Translation.read_alone fun b _ => Codepage.readsAlone_of_ne hcp b] at h
  exact (Reading.mk.inj h).2.symm

/-- A stretch of bytes that are read by themselves. -/
theorem run_alone {s : Session} (hs : s.held = []) {stretch : List Request}
    (hstretch : ∀ q ∈ stretch, q.isApply = false)
    (hbytes : ∀ b ∈ stretch.flatMap Request.fed, s.codepage.ReadsAlone b) :
    (s.run stretch).2.flatMap Answer.decoded =
        (stretch.flatMap Request.fed).map (s.translation.translate · .line) ∧
      (s.run stretch).1.held = [] := by
  have hstream := run_stream (waits_of_held hs) hstretch
  rw [hs, List.nil_append, Translation.read_alone hbytes] at hstream
  obtain ⟨hpoints, hheld⟩ := Reading.mk.inj hstream
  refine ⟨?_, hheld.symm⟩
  rw [← hpoints]
  exact List.map_congr_left fun b _ => (s.translate_line b).symm

/-- **The stream and the table of the line agree.**  Take a session at any time, and requests that
apply no settings.  If the line is not UTF-8, or if nothing is held back and all the bytes fed are
ASCII, then the code points given for the bytes are what the table shows of them one by one, however
they are cut, and after no request is anything held back. -/
theorem run_translated (id : Nat) (settings : Settings) (utf8Locale : Bool)
    (before : List Request) {stretch : List Request} (hstretch : ∀ q ∈ stretch, q.isApply = false) :
    let s := ((start id settings utf8Locale).run before).1
    let bytes := stretch.flatMap Request.fed
    s.codepage ≠ .utf8 ∨ s.held = [] ∧ (∀ b ∈ bytes, b.toNat < 0x80) →
      (s.run stretch).2.flatMap Answer.decoded = bytes.map (s.translation.translate · .line) ∧
      ∀ part, part <+: stretch → (s.run part).1.held = [] := by
  intro s bytes h
  have hwaits : s.Waits := run_waits (waits_of_held rfl) before
  have hheld : s.held = [] := by
    rcases h with hcp | ⟨hheld, -⟩
    · exact held_of_waits hwaits hcp
    · exact hheld
  have halone : ∀ b ∈ bytes, s.codepage.ReadsAlone b := by
    intro b hb
    rcases h with hcp | ⟨-, hascii⟩
    · exact Codepage.readsAlone_of_ne hcp b
    · exact fun _ => hascii b hb
  refine ⟨(run_alone hheld hstretch halone).1, ?_⟩
  rintro part ⟨rest, rfl⟩
  refine (run_alone hheld (fun q hq => hstretch q (List.mem_append_left _ hq)) fun b hb => ?_).2
  refine halone b ?_
  show b ∈ (part ++ rest).flatMap Request.fed
  rw [List.flatMap_append]
  exact List.mem_append_left _ hb

/-- The font's charset is that of the line, and some of its bytes stand for nothing; the session was
in UTF-8 before and held a byte back then. -/
theorem run_translated_unassigned :
    let settings : Settings := { lineCodepage := "Use font encoding", fontCharset := "CP1252" }
    let before := [Request.feed [0xE6], .apply settings]
    let stretch := [Request.feed [0x80, 0x81], .status, .feed [0x8D, 0x41]]
    let s := ((start 0 {} false).run before).1
    ((∀ q ∈ stretch, q.isApply = false) ∧ s.codepage ≠ .utf8) ∧
      (s.run stretch).2.flatMap Answer.decoded = [0x20AC, 0xFFFD, 0xFFFD, 0x41] ∧
      (s.run (stretch.take 1)).1.held = [] := by
  intro settings before stretch s
  have hstretch : ∀ q ∈ stretch, q.isApply = false := by decide
  have hcp : s.codepage ≠ .utf8 := by decide +kernel
  obtain ⟨hpoints, hheld⟩ := run_translated 0 {} false before hstretch (.inl hcp)
  exact ⟨⟨hstretch, hcp⟩, hpoints.trans (by decide +kernel), hheld _ (List.take_prefix 1 _)⟩

/-! ### Text that comes back -/

/-- The bytes of a text, in one piece. -/
theorem read_encodeInput (s : Session) (text : String) (default : Option UInt8) :
    s.codepage.read (s.encodeInput text default) =
      ⟨s.translation.echo default (text.toList.map Char.toNat), []⟩ := by
  rw [encodeInput]
  by_cases h : s.codepage = .utf8
  · -- a text has nothing but scalar values, and so UTF-8 keeps all of it
    have hscalar : ∀ p ∈ text.toList.map Char.toNat, s.codepage.Represents p := by
      intro p hp
      obtain ⟨c, -, rfl⟩ := List.mem_map.mp hp
      rw [h]
      exact CodePoint.isScalar_of_char c
    have hread := Codepage.read_bytesOf hscalar []
    rw [List.append_nil, Codepage.read_nil, Reading.after, List.append_nil] at hread
    rw [Codepage.encode_eq_flatMap hscalar, hread, Translation.echo_utf8 h]
  · rw [Translation.read_alone fun b _ => Codepage.readsAlone_of_ne h b,
      Translation.map_encode h, Translation.echo_of_ne h]
    simp only [translate_line]
    rfl

/-- **Text that is typed comes back.**  Take the bytes that a session sends for a text, cut in any
way, and feed them to a new session with the same settings, among requests that apply none.  It
gives the code points of the text, those that the line cannot carry replaced by what the default
byte shows, or dropped if there is none; and it holds nothing back. -/
theorem run_encodeInput (s : Session) (text : String) (default : Option UInt8)
    {stretch : List Request} (hstretch : ∀ q ∈ stretch, q.isApply = false)
    (hsent : stretch.flatMap Request.fed = s.encodeInput text default)
    (newId : Nat) (utf8Locale : Bool) :
    let r := (start newId s.settings utf8Locale).run stretch
    r.2.flatMap Answer.decoded = s.translation.echo default (text.toList.map Char.toNat) ∧
    r.1.held = [] := by
  intro r
  have hcp : (start newId s.settings utf8Locale).codepage = s.codepage := by
    rw [codepage_eq, codepage_eq]
    rfl
  have hstream : s.codepage.read (s.encodeInput text default) =
      ⟨r.2.flatMap Answer.decoded, r.1.held⟩ := by
    rw [← hsent, ← hcp]
    exact run_stream (waits_of_held rfl) hstretch
  obtain ⟨hpoints, hheld⟩ := Reading.mk.inj (hstream.symm.trans (s.read_encodeInput text default))
  exact ⟨hpoints, hheld⟩

/-- One character that the line can carry follows another that it cannot, and the default byte
stands for nothing. -/
theorem run_encodeInput_unassigned :
    let s := start 0 { lineCodepage := "CP1252" } false
    let stretch := [Request.feed [0x61, 0x81], .snapshot, .feed [0x80]]
    let r := (start 1 s.settings true).run stretch
    ((∀ q ∈ stretch, q.isApply = false) ∧
      stretch.flatMap Request.fed = s.encodeInput "a日€" (some 0x81)) ∧
      r.2.flatMap Answer.decoded = [0x61, 0xFFFD, 0x20AC] ∧ r.1.held = [] := by
  intro s stretch r
  have hstretch : ∀ q ∈ stretch, q.isApply = false := by decide
  have hsent : stretch.flatMap Request.fed = s.encodeInput "a日€" (some 0x81) := by
    decide +kernel
  obtain ⟨hpoints, hheld⟩ := run_encodeInput s "a日€" (some 0x81) hstretch hsent 1 true
  exact ⟨⟨hstretch, hsent⟩, hpoints.trans (by decide +kernel), hheld⟩

end Session

end TerminalText
