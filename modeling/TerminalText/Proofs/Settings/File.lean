import TerminalText.Proofs.Codepage.Decode
import TerminalText.Proofs.FileTree
import TerminalText.Proofs.Toml.Document
import TerminalText.Proofs.Toml.Text
import TerminalText.Settings.File

/-!
# Settings survive a file

The document that is written for settings is read as those settings (`ofToml?_toToml`).  Its table
holds one entry for each of them (`entries`), and each line of it is read by itself
(`readLines_writeLine`), whatever lines follow.

`load_save`: settings that were saved are loaded again, whatever they are and whatever the file held
before.  Three things come together: the file holds the bytes that were written (`holds_of_save`),
bytes give the text they encode (`decodeText?_encodeText`), and the text gives the settings it was
written for.
-/

namespace TerminalText.Settings

open Toml (IsBareName Statement Table Value)

/-! ### Values -/

/-- A text is read back from its line. -/
theorem read_writeText (t : String) (r : List Char) :
    Value.reader.read (Toml.Text.write t.toList ++ '\n' :: r) = some (.text t, '\n' :: r) := by
  have h : Toml.Text.read (Toml.Text.write t.toList ++ '\n' :: r) = some (t.toList, '\n' :: r) :=
    Toml.Text.read_write t.toList (by simp) (by simp)
  rw [Value.read_text h, String.ofList_toList]

theorem read_writeFlag (b : Bool) (r : List Char) :
    Value.reader.read (writeFlag b ++ '\n' :: r) = some (.flag b, '\n' :: r) := by
  cases b <;> rfl

/-! ### Lines -/

/-- A line is read by itself, and the lines after it as they would be without it. -/
theorem readLines_writeLine {key : String} {w : List Char} {v : Value}
    (hk : IsBareName key.toList)
    (hv : ∀ r, Value.reader.read (w ++ '\n' :: r) = some (v, '\n' :: r)) (r : List Char) :
    Statement.readLines (writeLine key w ++ r) =
      (Statement.readLines r).map (.entry ⟨[], key⟩ v :: ·) := by
  have hline : writeLine key w ++ r = key.toList ++ ' ' :: '=' :: ' ' :: (w ++ '\n' :: r) := by
    simp [writeLine]
  have hread := Statement.readLine_entry hk (hv r)
  rw [String.ofList_toList, ← hline] at hread
  exact Statement.readLines_cons (by simp [hline]) hread

/-! ### The document -/

/-- The entries that hold the settings. -/
def entries (s : Settings) : Table :=
  [("line_codepage", .text s.lineCodepage), ("font_charset", .text s.fontCharset),
    ("vt_mode", .text s.vtMode.name), ("cjk_ambig_wide", .flag s.ambiguousWide),
    ("utf8_override", .flag s.utf8Override)]

theorem readLines_header (r : List Char) : Statement.readLines ("[translation]\n".toList ++ r) =
    (Statement.readLines r).map (.table ⟨[], "translation"⟩ :: ·) := by
  have hline : "[translation]\n".toList ++ r =
      '[' :: ("translation".toList ++ ']' :: '\n' :: r) := rfl
  have hread := Statement.readLine_header (k := "translation".toList) (by decide) r
  rw [String.ofList_toList, ← hline] at hread
  exact Statement.readLines_cons (by simp) hread

theorem readLines_toToml (s : Settings) : Statement.readLines s.toToml =
    some (.table ⟨[], "translation"⟩ :: s.entries.map fun e => .entry ⟨[], e.1⟩ e.2) := by
  rw [← List.append_nil s.toToml]
  unfold toToml
  simp only [List.append_assoc]
  rw [readLines_header, readLines_writeLine (by decide) (read_writeText _),
    readLines_writeLine (by decide) (read_writeText _),
    readLines_writeLine (by decide) (read_writeText _),
    readLines_writeLine (by decide) (read_writeFlag _),
    readLines_writeLine (by decide) (read_writeFlag _), Statement.readLines_nil]
  rfl

/-- The document has one table, and in it the settings. -/
theorem read_toToml (s : Settings) :
    Toml.Document.read s.toToml = some [("translation", .table .header s.entries)] := by
  have hmark : Toml.Document.dropMark s.toToml = s.toToml := rfl
  have hdistinct : (s.entries.map Prod.fst).Nodup := by simp [entries]
  rw [Toml.Document.read, hmark, readLines_toToml]
  exact Toml.Document.build_header "translation" hdistinct

/-- The entries are found by their names, and give the settings again. -/
theorem ofValue?_entries (s : Settings) : ofValue? (.table .header s.entries) = some s := by
  have hmode := VtMode.ofName?_name s.vtMode
  simp [ofValue?, entries, Table.get?, ofFields?, orDefault, textOf?, modeOf?, flagOf?, hmode]

/-- **Settings are read as they were written.** -/
theorem ofToml?_toToml (s : Settings) : ofToml? s.toToml = some s := by
  rw [ofToml?, read_toToml]
  exact ofValue?_entries s

/-! ### Text as bytes -/

/-- Every text is encoded in UTF-8, and decoded again. -/
theorem decodeText?_encodeText (s : List Char) : decodeText? (encodeText s) = some s := by
  have hbytes : encodeText s = (s.map Char.toNat).flatMap Codepage.utf8.bytesOf := by
    rw [List.flatMap_map]
    rfl
  have hscalar : ∀ p ∈ s.map Char.toNat, Codepage.utf8.Represents p := fun p hp => by
    obtain ⟨c, _, rfl⟩ := List.mem_map.mp hp
    exact CodePoint.isScalar_of_char c
  have hend : Codepage.utf8.decode [] = ⟨[], 0⟩ :=
    Codepage.decode_of_not_point fun p n h => by cases h
  have hdecode := Codepage.decode_append hscalar []
  rw [List.append_nil, ← hbytes, hend, List.append_nil] at hdecode
  have hchars : (s.map Char.toNat).map Char.ofNat = s := by
    simp [List.map_map, Function.comp_def]
  rw [decodeText?, hdecode]
  simp only [Nat.add_zero, if_true, hchars]

/-! ### What is left of a save -/

/-- A file with saved settings is its owner's alone, and holds their text. -/
theorem holds_of_save {s : Settings} {t : FileTree} {r : Route}
    (h : (s.save t r).result = .ok ()) :
    (s.save t r).tree.Holds r privateMode (encodeText s.toToml) := by
  obtain ⟨_, hmade⟩ := FileTree.Outcome.andThen_eq_ok h
  rw [save, hmade] at h ⊢
  obtain ⟨hresult, hwritten⟩ := FileTree.Outcome.andThen_eq_ok h
  rw [hwritten]
  obtain ⟨mode, hholds⟩ := FileTree.holds_of_write hresult
  exact hholds.setMode privateMode

theorem load_of_holds {s : Settings} {t : FileTree} {r : Route} {mode : Nat}
    (h : t.Holds r mode (encodeText s.toToml)) : load t r = .ok s := by
  simp only [load, h.lookup, h.read, decodeText?_encodeText, ofToml?_toToml]

/-- Wherever the file of a user is, what was saved there is loaded again. -/
theorem loadOwn_of_saveOwn {s : Settings} {t : FileTree} {file? : Option Route}
    (h : (s.saveOwn t file?).2 = .ok ()) : loadOwn (s.saveOwn t file?).1 file? = .ok s := by
  cases file? with
  | none => cases h
  | some r =>
    have hsaved : (s.save t r).result = .ok () := by
      cases ho : (s.save t r).result with
      | ok => rfl
      | error e =>
        simp only [saveOwn, ho] at h
        cases h
    exact load_of_holds (holds_of_save hsaved)

/-- **Settings survive a save and a load**, under any route, and in the user's own file: wherever
the system keeps it, and so in the home of the user too. -/
theorem load_save (s : Settings) (t : FileTree) :
    (∀ r, (s.save t r).result = .ok () → load (s.save t r).tree r = .ok s) ∧
      (∀ file?, (s.saveOwn t file?).2 = .ok () → loadOwn (s.saveOwn t file?).1 file? = .ok s) ∧
      ∀ home config, (s.saveDefault t home config).2 = .ok () →
        loadDefault (s.saveDefault t home config).1 home config = .ok s := by
  refine ⟨fun r h => load_of_holds (holds_of_save h), fun file? h => loadOwn_of_saveOwn h,
    fun home config h => ?_⟩
  exact loadOwn_of_saveOwn h

/-- Settings whose names hold quotes of both kinds, newlines and controls, saved over a file that
held no settings at all. -/
theorem load_save_quoted :
    let s : Settings :=
      { lineCodepage := "\n\"\"\"\\'''\t", fontCharset := "a'''\r\x00\x7F\"\"",
        vtMode := .poorman, ambiguousWide := true, utf8Override := false }
    let t := (FileTree.empty.write [0xFF] (.ofPath (.child .root "x"))).tree
    let r := Route.ofPath (.child .root "x")
    let home := some (Route.ofPath (.child .root "home"))
    ((s.save t r).result = .ok () ∧ load (s.save t r).tree r = .ok s) ∧
      ((s.saveOwn t (some r)).2 = .ok () ∧ loadOwn (s.saveOwn t (some r)).1 (some r) = .ok s) ∧
      (s.saveDefault t home .unset).2 = .ok () ∧
        loadDefault (s.saveDefault t home .unset).1 home .unset = .ok s :=
  ⟨⟨by decide +kernel, (load_save _ _).1 _ (by decide +kernel)⟩,
    ⟨by decide +kernel, (load_save _ _).2.1 _ (by decide +kernel)⟩,
    by decide +kernel, (load_save _ _).2.2 _ _ (by decide +kernel)⟩

end TerminalText.Settings
