import Mathlib.Data.List.Nodup
import TerminalText.Proofs.Settings.File

/-!
# Settings line by line

A file of settings that is edited by hand need not look like one that was saved: below the header
its lines stand in any order, some are missing, and others name no setting at all.  `document` is
the text of such a file.  A line that gives a setting is the one that is written for it when the
settings are saved (`document_all`).

`load_document`: such a file is loaded line by line.  Each setting that has a line is what the line
gives, every other is its default, and lines without a setting do not count.  But no line may come
twice, not even one of those.
-/

namespace TerminalText.Settings

open Toml (IsBareName Statement Table Value)

/-! ### Settings by name -/

/-- One of the settings. -/
inductive Field where
  | lineCodepage
  | fontCharset
  | vtMode
  | ambiguousWide
  | utf8Override
  deriving DecidableEq, Repr

namespace Field

/-- All of them, in the order in which they are saved. -/
def all : List Field := [lineCodepage, fontCharset, vtMode, ambiguousWide, utf8Override]

/-- The key of a setting. -/
def key : Field → String
  | lineCodepage  => "line_codepage"
  | fontCharset   => "font_charset"
  | vtMode        => "vt_mode"
  | ambiguousWide => "cjk_ambig_wide"
  | utf8Override  => "utf8_override"

theorem mem_all (f : Field) : f ∈ all := by cases f <;> decide

theorem key_bare (f : Field) : IsBareName f.key.toList := by cases f <;> decide

/-- No two settings have one key. -/
theorem key_injective {f g : Field} (h : f.key = g.key) : f = g := by
  have hkeys : (all.map key).Nodup := by decide
  exact List.inj_on_of_nodup_map hkeys (mem_all f) (mem_all g) h

end Field

/-- What a line gives: a text or a truth value. -/
inductive Datum where
  | text (s : String)
  | flag (b : Bool)
  deriving DecidableEq, Repr

namespace Datum

/-- As it is written. -/
def write : Datum → List Char
  | text s => Toml.Text.write s.toList
  | flag b => writeFlag b

/-- As it is read. -/
def value : Datum → Value
  | text s => .text s
  | flag b => .flag b

/-- Whatever a line may hold is read back from it. -/
theorem read_write (d : Datum) (r : List Char) :
    Value.reader.read (d.write ++ '\n' :: r) = some (d.value, '\n' :: r) :=
  match d with
  | text s => read_writeText s r
  | flag b => read_writeFlag b r

end Datum

/-- What the settings hold. -/
def datum (s : Settings) : Field → Datum
  | .lineCodepage  => .text s.lineCodepage
  | .fontCharset   => .text s.fontCharset
  | .vtMode        => .text s.vtMode.name
  | .ambiguousWide => .flag s.ambiguousWide
  | .utf8Override  => .flag s.utf8Override

/-- The settings as they are in some fields, and the defaults in the others. -/
def keeping (s : Settings) (fields : List Field) : Settings :=
  let defaults : Settings := {}
  { lineCodepage  := if .lineCodepage ∈ fields then s.lineCodepage else defaults.lineCodepage
    fontCharset   := if .fontCharset ∈ fields then s.fontCharset else defaults.fontCharset
    vtMode        := if .vtMode ∈ fields then s.vtMode else defaults.vtMode
    ambiguousWide := if .ambiguousWide ∈ fields then s.ambiguousWide else defaults.ambiguousWide
    utf8Override  := if .utf8Override ∈ fields then s.utf8Override else defaults.utf8Override }

/-! ### Lines -/

/-- A bare key of no setting. -/
structure OtherKey where
  name : String
  bare : IsBareName name.toList
  other : ∀ f : Field, name ≠ f.key

/-- A line below the header. -/
inductive Line where
  /-- Gives a setting as it is. -/
  | setting (f : Field)
  | other (key : OtherKey) (d : Datum)

namespace Line

/-- The key of a line. -/
def key : Line → String
  | setting f => f.key
  | other k _ => k.name

/-- What a line gives. -/
def datum (s : Settings) : Line → Datum
  | setting f => s.datum f
  | other _ d => d

/-- The setting that a line gives. -/
def field? : Line → Option Field
  | setting f => some f
  | other _ _ => none

theorem key_bare (l : Line) : IsBareName l.key.toList :=
  match l with
  | setting f => f.key_bare
  | other k _ => k.bare

/-- A line with the key of a setting is the line of that setting. -/
theorem eq_setting_of_key {l : Line} {f : Field} (h : l.key = f.key) : l = setting f :=
  match l with
  | setting _ => congrArg setting (Field.key_injective h)
  | other k _ => absurd h (k.other f)

/-- The settings that some lines give. -/
def fields (lines : List Line) : List Field := lines.filterMap field?

theorem mem_fields {lines : List Line} {f : Field} : f ∈ fields lines ↔ setting f ∈ lines := by
  rw [fields, List.mem_filterMap]
  constructor
  · rintro ⟨l, hl, hf⟩
    cases l with
    | setting g =>
      cases hf
      exact hl
    | other k d => cases hf
  · exact fun h => ⟨_, h, rfl⟩

end Line

/-- The text of a document with these lines. -/
def document (s : Settings) (lines : List Line) : List Char :=
  "[translation]\n".toList ++ lines.flatMap fun l => writeLine l.key (l.datum s).write

/-- Settings are saved by a line for each of them. -/
theorem document_all (s : Settings) : s.document (Field.all.map .setting) = s.toToml := by
  unfold document toToml
  simp only [Field.all, List.map_cons, List.map_nil, List.flatMap_cons, List.flatMap_nil,
    List.append_nil, Line.key, Field.key, Line.datum, datum, Datum.write, List.append_assoc]

/-! ### Reading the lines -/

variable {s : Settings} {lines : List Line}

/-- The entries that some lines make. -/
def tableOf (s : Settings) (lines : List Line) : Table :=
  lines.map fun l => (l.key, (l.datum s).value)

theorem keys_tableOf (s : Settings) (lines : List Line) :
    (s.tableOf lines).map Prod.fst = lines.map Line.key := by
  simp [tableOf, Function.comp_def]

/-- Lines are read one by one, whatever follows them. -/
theorem readLines_lines (s : Settings) (lines : List Line) (r : List Char) :
    Statement.readLines ((lines.flatMap fun l => writeLine l.key (l.datum s).write) ++ r) =
      (Statement.readLines r).map (((s.tableOf lines).map fun e => .entry ⟨[], e.1⟩ e.2) ++ ·) := by
  induction lines with
  | nil => exact Option.map_id'.symm
  | cons l lines ih =>
    rw [List.flatMap_cons, List.append_assoc, readLines_writeLine l.key_bare (l.datum s).read_write,
      ih, Option.map_map]
    rfl

theorem readLines_document (s : Settings) (lines : List Line) (r : List Char) :
    Statement.readLines (s.document lines ++ r) = (Statement.readLines r).map fun after =>
      .table ⟨[], "translation"⟩ ::
        (((s.tableOf lines).map fun e => .entry ⟨[], e.1⟩ e.2) ++ after) := by
  unfold document
  rw [List.append_assoc, readLines_header, readLines_lines, Option.map_map]
  rfl

theorem read_document_append (s : Settings) (lines : List Line) (r : List Char) :
    Toml.Document.read (s.document lines ++ r) =
      (Statement.readLines (s.document lines ++ r)).bind Toml.Document.build := by
  have hmark (x : List Char) : Toml.Document.dropMark ("[translation]\n".toList ++ x) =
      "[translation]\n".toList ++ x := rfl
  unfold document
  rw [Toml.Document.read, List.append_assoc, hmark]

theorem read_document (s : Settings) (lines : List Line) :
    Toml.Document.read (s.document lines) = Toml.Document.build
      (.table ⟨[], "translation"⟩ :: (s.tableOf lines).map fun e => .entry ⟨[], e.1⟩ e.2) := by
  rw [← List.append_nil (s.document lines), read_document_append, readLines_document,
    Statement.readLines_nil, Option.map_some, List.append_nil, Option.bind_some]

/-! ### Settings from the lines -/

/-- In lines of different keys a setting is found exactly if it has a line. -/
theorem get?_tableOf (h : (lines.map Line.key).Nodup) (f : Field) :
    (s.tableOf lines).get? f.key =
      if f ∈ Line.fields lines then some (s.datum f).value else none := by
  split
  next hf =>
    have hmem : (f.key, (s.datum f).value) ∈ s.tableOf lines :=
      List.mem_map_of_mem (Line.mem_fields.mp hf)
    exact Table.get?_of_mem (by rwa [keys_tableOf]) hmem
  next hf =>
    refine Table.get?_eq_none fun hmem => hf (Line.mem_fields.mpr ?_)
    rw [keys_tableOf] at hmem
    obtain ⟨l, hl, hkey⟩ := List.mem_map.mp hmem
    exact Line.eq_setting_of_key hkey ▸ hl

/-- What is given is read, and what is not is the default. -/
theorem orDefault_ite {α : Type} {read : Value → Option α} {v : Value} {a : α} (h : read v = some a)
    (default : α) (p : Prop) [Decidable p] :
    orDefault read default (if p then some v else none) = some (if p then a else default) := by
  split
  · exact h
  · rfl

theorem ofValue?_tableOf (h : (lines.map Line.key).Nodup) :
    ofValue? (.table .header (s.tableOf lines)) = some (s.keeping (Line.fields lines)) := by
  have hline : (s.tableOf lines).get? "line_codepage" = _ := get?_tableOf h .lineCodepage
  have hfont : (s.tableOf lines).get? "font_charset" = _ := get?_tableOf h .fontCharset
  have hmode : (s.tableOf lines).get? "vt_mode" = _ := get?_tableOf h .vtMode
  have hwide : (s.tableOf lines).get? "cjk_ambig_wide" = _ := get?_tableOf h .ambiguousWide
  have hutf8 : (s.tableOf lines).get? "utf8_override" = _ := get?_tableOf h .utf8Override
  have htext (t : String) : textOf? (Datum.text t).value = some t := rfl
  have hname : modeOf? (Datum.text s.vtMode.name).value = some s.vtMode :=
    VtMode.ofName?_name s.vtMode
  have hflag (b : Bool) : flagOf? (Datum.flag b).value = some b := rfl
  rw [ofValue?, hline, hfont, hmode, hwide, hutf8]
  simp only [ofFields?, datum, orDefault_ite (htext _), orDefault_ite hname,
    orDefault_ite (hflag _)]
  rfl

/-- Settings are read from any lines with keys of their own. -/
theorem ofToml?_document (h : (lines.map Line.key).Nodup) :
    ofToml? (s.document lines) = some (s.keeping (Line.fields lines)) := by
  have hkeys : ((s.tableOf lines).map Prod.fst).Nodup := by rwa [keys_tableOf]
  rw [ofToml?, read_document, Toml.Document.build_header _ hkeys]
  exact ofValue?_tableOf h

/-- Lines of which two have one key are no settings. -/
theorem ofToml?_repeated (h : ¬ (lines.map Line.key).Nodup) :
    ofToml? (s.document lines) = none := by
  have hkeys : ¬ ((s.tableOf lines).map Prod.fst).Nodup := by rwa [keys_tableOf]
  rw [ofToml?, read_document, Toml.Document.build_repeated _ hkeys]
  rfl

/-- A document with its header twice holds no settings. -/
theorem ofToml?_header_repeated (h : (lines.map Line.key).Nodup) (below : List Line) :
    ofToml? (s.document lines ++ s.document below) = none := by
  have hkeys : ((s.tableOf lines).map Prod.fst).Nodup := by rwa [keys_tableOf]
  rw [ofToml?, read_document_append, readLines_document, ← List.append_nil (s.document below),
    readLines_document, Statement.readLines_nil, Option.map_some, Option.map_some,
    Option.bind_some, Toml.Document.build_header_repeated _ hkeys]
  rfl

/-! ### Loading -/

/-- The settings in a file are those that its text gives. -/
theorem load_of_read {t : FileTree} {r : Route} {text : List Char}
    (h : t.read r = .ok (encodeText text)) :
    load t r = (ofToml? text).elim (.error .notSettings) .ok := by
  rw [load]
  split
  next hlookup =>
    rw [FileTree.read, hlookup] at h
    cases h
  next =>
    simp only [h, decodeText?_encodeText]
    cases ofToml? text <;> rfl

/-- A line that is written once more comes twice. -/
theorem not_nodup_of_repeated {above below : List Line} {line : Line} (h : line ∈ above ++ below) :
    ¬ ((above ++ line :: below).map Line.key).Nodup := by
  rw [List.map_append, List.map_cons, List.nodup_middle, List.nodup_cons, ← List.map_append]
  exact fun hnodup => hnodup.1 (List.mem_map_of_mem h)

/-- **Files are loaded line by line.**  Of lines with different keys, in whatever order, those of
settings are loaded as they stand, and settings without a line are the defaults; lines of other keys
do not count.  If one of the lines is written once more, wherever that is, the file is refused, and
so it is if the header is. -/
theorem load_document (s : Settings) {lines : List Line} (h : (lines.map Line.key).Nodup)
    (t : FileTree) (r : Route) :
    (t.read r = .ok (encodeText (s.document lines)) →
      load t r = .ok (s.keeping (Line.fields lines))) ∧
    ∀ above below, above ++ below = lines →
      (∀ line ∈ lines, t.read r = .ok (encodeText (s.document (above ++ line :: below))) →
        load t r = .error .notSettings) ∧
      (t.read r = .ok (encodeText (s.document above ++ s.document below)) →
        load t r = .error .notSettings) := by
  constructor
  · intro hread
    rw [load_of_read hread, ofToml?_document h]
    rfl
  · rintro above below rfl
    constructor
    · intro line hline hread
      rw [load_of_read hread, ofToml?_repeated (not_nodup_of_repeated hline)]
      rfl
    · intro hread
      rw [List.map_append] at h
      rw [load_of_read hread, ofToml?_header_repeated h.of_append_left]
      rfl

/-- Two settings in turned order, among lines of other keys, one of them with a text of several
lines that looks like a setting; and the same with that line once more at the end, or with the
header once more in the middle. -/
theorem load_document_mixed :
    let s : Settings := { lineCodepage := "KOI8-R", fontCharset := "CP437", vtMode := .poorman }
    let note : Line := .other ⟨"0-note", by decide, fun f => by cases f <;> decide⟩
      (.text "\nvt_mode = 'unicode'\n\"\"\"\\")
    let plain : Line := .other ⟨"line-codepage", by decide, fun f => by cases f <;> decide⟩
      (.flag true)
    let lines := [note, .setting .vtMode, plain, .setting .lineCodepage]
    let r := Route.ofPath (.child .root "x")
    let file (text : List Char) := (FileTree.empty.write (encodeText text) r).tree
    (lines.map Line.key).Nodup ∧
      load (file (s.document lines)) r = .ok { lineCodepage := "KOI8-R", vtMode := .poorman } ∧
      load (file (s.document (lines ++ [note]))) r = .error .notSettings ∧
      load (file (s.document (lines.take 2) ++ s.document (lines.drop 2))) r =
        .error .notSettings := by
  intro s note plain lines r file
  have h : (lines.map Line.key).Nodup := by decide +kernel
  have hread : (file (s.document lines)).read r = .ok (encodeText (s.document lines)) := by
    decide +kernel
  have htwice : (file (s.document (lines ++ [note]))).read r =
      .ok (encodeText (s.document (lines ++ [note]))) := by decide +kernel
  have hheader : (file (s.document (lines.take 2) ++ s.document (lines.drop 2))).read r =
      .ok (encodeText (s.document (lines.take 2) ++ s.document (lines.drop 2))) := by
    decide +kernel
  refine ⟨h, ((load_document s h _ r).1 hread).trans (by decide +kernel), ?_, ?_⟩
  · exact ((load_document s h _ r).2 lines [] (List.append_nil _)).1 note (.head _) htwice
  · exact ((load_document s h _ r).2 _ _ (List.take_append_drop 2 lines)).2 hheader

end TerminalText.Settings
