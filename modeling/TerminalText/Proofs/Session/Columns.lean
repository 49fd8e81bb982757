import TerminalText.Proofs.CellWidth
import TerminalText.Proofs.Session.Line

/-!
# Columns in a session

A session measures runs under its own settings, and takes each font byte for one cell.  So it
measures a run as one in which a letter stands in the place of every font byte (`asLetter`); this is
so whatever settings were applied before, and it is the last of them that count (`runColumns_run`).

Whether a byte is a control is looked up in a table made from the one of the line; whether a code
point has a width is found from its number.  The two are not the same: NUL is a control and has a
width, and of the font bytes some are controls, but each takes one cell.  `runColumns_feed` says how
they agree on what is shown of any bytes.  On a line that goes to the font every byte takes a
column, and on any other what is shown has no width exactly if a control comes before the first NUL.
-/

namespace TerminalText

open CodePoint (IsFontByte fontByte)
open Translation (lineEntry)

namespace CodePoint

/-- A code point, or the letter A in the place of a font byte. -/
def asLetter (p : Nat) : Nat := if IsFontByte p then 'A'.toNat else p

theorem asLetter_eq_zero_iff {p : Nat} : asLetter p = 0 ↔ p = 0 := by
  rw [asLetter]
  split
  next h =>
    refine iff_of_false (by decide) ?_
    rintro rfl
    exact absurd h (by decide)
  next => rfl

end CodePoint

namespace Session

open CodePoint (asLetter asLetter_eq_zero_iff)

/-! ### Measuring -/

theorem ambiguousWide_run (s : Session) (qs : List Request) :
    (s.run qs).1.settings.ambiguousWide = (inForce s.settings qs).ambiguousWide :=
  congrArg Settings.ambiguousWide (settings_run s qs)

/-- A font byte is as wide as a letter. -/
theorem width_eq_ofPoint (s : Session) (p : Nat) :
    s.width p = .ofPoint s.settings.ambiguousWide (asLetter p) := by
  rw [width, asLetter]
  split
  next => cases s.settings.ambiguousWide <;> rfl
  next => rfl

/-- A session measures a run as one with letters in the place of font bytes. -/
theorem runColumns_eq_ofRun (s : Session) (ps : List Nat) :
    s.runColumns ps = CellWidth.ofRun s.settings.ambiguousWide (ps.map asLetter) := by
  rw [runColumns, CellWidth.ofRun, CellWidth.takeWhile_map_of_eq_zero_iff fun p =>
    asLetter_eq_zero_iff, CellWidth.total_map]
  simp only [width_eq_ofPoint]

theorem runColumns_singleton (s : Session) {p : Nat} (h : p ≠ 0) :
    s.runColumns [p] = (s.width p).columns := by
  have hrun : [p].takeWhile (· ≠ 0) = [p] := List.takeWhile_eq_self_iff.mpr (by simpa using h)
  rw [runColumns, hrun, CellWidth.total_cons]
  cases (s.width p).columns <;> rfl

/-- **All measure alike.**  A text has the columns of its code points.  A session, whatever it was
asked before, measures a run as it is measured where ambiguous characters are as wide as in the
settings in force, with a letter in the place of every font byte; and a run of one code point, other
than NUL, has the columns of that code point. -/
theorem runColumns_run :
    (∀ ambiguousWide text, CellWidth.ofText ambiguousWide text =
      CellWidth.ofRun ambiguousWide (text.toList.map Char.toNat)) ∧
    ∀ (s : Session) (qs : List Request),
      (∀ ps, (s.run qs).1.runColumns ps =
        CellWidth.ofRun (inForce s.settings qs).ambiguousWide (ps.map asLetter)) ∧
      ∀ p, p ≠ 0 → (s.run qs).1.runColumns [p] = ((s.run qs).1.width p).columns := by
  refine ⟨CellWidth.ofText_eq_ofRun, fun s qs => ⟨fun ps => ?_, fun p => runColumns_singleton _⟩⟩
  rw [runColumns_eq_ofRun, ambiguousWide_run]

/-- The settings that make ambiguous characters wide are applied last: a plus-minus sign takes two
columns, the byte of the font one, and what follows NUL none. -/
theorem runColumns_run_applied :
    let s := ((start 0 {} false).run [.width 0xB1, .apply { ambiguousWide := true }]).1
    0xF0B1 ≠ 0 ∧ s.runColumns [0xB1, 0xF0B1, 0, 0x1B] = some 3 ∧ s.runColumns [0xF0B1] = some 1 ∧
      CellWidth.ofText true "±\x00\x1B" = some 2 := by
  intro s
  have hne : 0xF0B1 ≠ 0 := by decide
  obtain ⟨htext, hsession⟩ := runColumns_run
  obtain ⟨hrun, hone⟩ := hsession (start 0 {} false) [.width 0xB1, .apply { ambiguousWide := true }]
  refine ⟨hne, ?_, ?_, ?_⟩
  · exact (hrun [0xB1, 0xF0B1, 0, 0x1B]).trans (by decide +kernel)
  · exact (hone 0xF0B1 hne).trans (by decide +kernel)
  · exact (htext true "±\x00\x1B").trans (by decide +kernel)

end Session

/-! ### Controls -/

namespace Translation

/-- On a line of a charset NUL alone is shown as NUL. -/
theorem lineEntry_charset_eq_zero_iff {c : Charset} {b : UInt8} :
    lineEntry (.charset c) b = 0 ↔ b = 0 := by
  rw [lineEntry_charset, ← Charset.point?_eq_zero_iff (c := c)]
  cases c.point? b with
  | none   => simp [CodePoint.replacement]
  | some p => simp

/-- A byte of a charset is a control if it is NUL or if what it shows has no width. -/
theorem isControl_lineEntry_charset_iff {c : Charset} {b : UInt8} :
    IsControl (lineEntry (.charset c) b) ↔
      b = 0 ∨ CellWidth.IsControl (lineEntry (.charset c) b) := by
  have hzero := lineEntry_charset_eq_zero_iff (c := c) (b := b)
  have hfont : ¬ CodePoint.IsFontByte (lineEntry (.charset c) b) := by
    rw [lineEntry_charset]
    cases h : c.point? b with
    | none   => decide
    | some p => exact fun hf => Nat.not_le.mpr (Charset.lt_fontBase_of_point? h) hf.1
  rw [← hzero]
  simp only [IsControl, CellWidth.IsControl, CodePoint.IsFontByte, CodePoint.fontBase] at *
  omega

end Translation

namespace Session

/-- In a session too, controls and nothing else have no width. -/
theorem width_eq_invalid_iff {s : Session} {p : Nat} :
    s.width p = .invalid ↔ CellWidth.IsControl p := by
  rw [width]
  split
  next h =>
    -- font bytes lie beyond all controls
    refine iff_of_false nofun fun hc => ?_
    have hlow := CellWidth.lt_of_isControl hc
    have hhigh : 0xF000 ≤ p := h.1
    omega
  next => exact CellWidth.ofPoint_eq_invalid_iff

/-- A run has no width if and only if a control stands in it before the first NUL. -/
theorem runColumns_eq_none_iff {s : Session} {ps : List Nat} :
    s.runColumns ps = none ↔ ∃ p ∈ ps.takeWhile (· ≠ 0), CellWidth.IsControl p := by
  simp only [runColumns, CellWidth.total_eq_none_iff, CellWidth.columns_eq_none_iff,
    width_eq_invalid_iff]

/-- Font bytes take one column each, that of zero too. -/
theorem runColumns_fontBytes (s : Session) (bs : List UInt8) :
    s.runColumns (bs.map fontByte) = some bs.length := by
  have hne : ∀ p ∈ bs.map fontByte, decide (p ≠ 0) = true := by
    intro p hp
    obtain ⟨b, -, rfl⟩ := List.mem_map.mp hp
    refine decide_eq_true ?_
    simp only [fontByte, CodePoint.fontBase]
    omega
  have hnarrow : ∀ p ∈ bs.map fontByte, (s.width p).columns = some 1 := by
    intro p hp
    obtain ⟨b, -, rfl⟩ := List.mem_map.mp hp
    rw [width, if_pos (CodePoint.isFontByte_fontByte b)]
    rfl
  rw [runColumns, List.takeWhile_eq_self_iff.mpr hne, CellWidth.total_of_narrow hnarrow,
    List.length_map]

/-- What a line of a charset shows has no width if and only if a control comes before the first
NUL. -/
theorem runColumns_charset {s : Session} {c : Charset} (hcp : s.codepage = .charset c)
    (bytes : List UInt8) : s.runColumns (bytes.map (lineEntry s.codepage)) = none ↔
      ∃ b ∈ bytes.takeWhile (· ≠ 0), s.translation.isControl b = true := by
  -- what the table shows ends where the bytes do
  rw [hcp, runColumns_eq_none_iff, CellWidth.takeWhile_map_of_eq_zero_iff fun b =>
    Translation.lineEntry_charset_eq_zero_iff]
  simp only [isControl_iff, hcp, Translation.isControl_lineEntry_charset_iff]
  constructor
  · rintro ⟨p, hp, hc⟩
    obtain ⟨b, hb, rfl⟩ := List.mem_map.mp hp
    exact ⟨b, hb, .inr hc⟩
  · rintro ⟨b, hb, hc⟩
    have hb₀ : b ≠ 0 := by simpa using List.mem_takeWhile_imp hb
    exact ⟨_, List.mem_map_of_mem hb, hc.resolve_left hb₀⟩

/-- **Controls and columns agree.**  Feed any bytes to a new session whose line is not UTF-8, and
measure what it gives, be ambiguous characters wide or not.  If its bytes go to the font, each takes
one column.  If not, there is no width exactly if a byte before the first NUL is a control. -/
theorem runColumns_feed (id : Nat) {settings : Settings} (utf8Locale : Bool)
    (h : settings.translation.codepage ≠ .utf8) (bytes : List UInt8) :
    let s := start id settings utf8Locale
    let columns := (s.feed bytes).1.runColumns (s.feed bytes).2
    (s.translation.directToFont = true → columns = some bytes.length) ∧
    (s.translation.directToFont = false →
      (columns = none ↔ ∃ b ∈ bytes.takeWhile (· ≠ 0), s.translation.isControl b = true)) := by
  intro s columns
  have hne : s.codepage ≠ .utf8 := h
  have hcolumns : columns = s.runColumns (bytes.map (lineEntry s.codepage)) := by
    show s.runColumns (s.codepage.read ([] ++ bytes)).points = _
    rw [List.nil_append, Translation.read_alone fun b _ => Codepage.readsAlone_of_ne hne b]
  have hdirect : s.translation.directToFont = s.codepage.isRaw := rfl
  rw [hcolumns, hdirect]
  cases hcp : s.codepage with
  | utf8 => exact absurd hcp hne
  | raw =>
    refine ⟨fun _ => ?_, nofun⟩
    rw [funext Translation.lineEntry_raw]
    exact s.runColumns_fontBytes bytes
  | charset c =>
    refine ⟨nofun, fun _ => ?_⟩
    rw [← hcp]
    exact runColumns_charset hcp bytes

/-- NUL before and after a control, on a line that goes to the font and on one that does not. -/
theorem runColumns_feed_nul :
    let font : Settings := { lineCodepage := "Use font encoding", ambiguousWide := true }
    let latin : Settings := { lineCodepage := "ISO-8859-1", ambiguousWide := true }
    let shown (settings : Settings) (bytes : List UInt8) :=
      ((start 0 settings false).feed bytes).1.runColumns ((start 0 settings false).feed bytes).2
    (font.translation.codepage ≠ .utf8 ∧ latin.translation.codepage ≠ .utf8) ∧
      shown font [0x00, 0x1B, 0xB1] = some 3 ∧
      shown latin [0xB1, 0x9B, 0x00] = none ∧ shown latin [0xB1, 0x00, 0x9B] ≠ none := by
  intro font latin shown
  have hfont : font.translation.codepage ≠ .utf8 := by decide +kernel
  have hlatin : latin.translation.codepage ≠ .utf8 := by decide +kernel
  refine ⟨⟨hfont, hlatin⟩, ?_, ?_, ?_⟩
  · exact (runColumns_feed 0 false hfont _).1 (by decide +kernel)
  · exact ((runColumns_feed 0 false hlatin _).2 (by decide +kernel)).mpr (by decide +kernel)
  · exact mt ((runColumns_feed 0 false hlatin _).2 (by decide +kernel)).mp (by decide +kernel)

end Session

end TerminalText
