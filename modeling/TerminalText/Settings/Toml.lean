import TerminalText.Settings
import TerminalText.Toml.Document
import TerminalText.Toml.Text.Write

/-!
# Settings as a TOML document

The settings stand in the table `translation`, one entry each.  `ofToml?` reads them: what is not
given has its default, entries that are no setting do not count, and a value of the wrong kind is
refused.  `toToml` writes them all, one line each.

Two ways of giving settings besides the plain one are read as well: an array that holds them in
order, and a mode as a table of one entry whose name is the mode and whose value is empty.
-/

namespace TerminalText.Settings

open Toml (Table Value)

/-! ### Reading -/

/-- A text. -/
def textOf? : Value → Option String
  | .text s => some s
  | _       => none

/-- A truth value. -/
def flagOf? : Value → Option Bool
  | .flag b => some b
  | _       => none

/-- Holds nothing. -/
def isEmptyValue : Value → Bool
  | .array []   => true
  | .table _ [] => true
  | _           => false

/-- A mode, by its name or as the only entry of a table. -/
def modeOf? : Value → Option VtMode
  | .text s            => VtMode.ofName? s
  | .table _ [(k, v)] => if isEmptyValue v then VtMode.ofName? k else none
  | _                  => none

/-- What is read from a value that may be missing; a missing one has its default. -/
def orDefault {α : Type} (read : Value → Option α) (default : α) : Option Value → Option α
  | some v => read v
  | none   => some default

/-- The settings whose values are found by name or by place. -/
def ofFields? (line font mode wide override : Option Value) : Option Settings := do
  let defaults : Settings := {}
  let lineCodepage  ← orDefault textOf? defaults.lineCodepage line
  let fontCharset   ← orDefault textOf? defaults.fontCharset font
  let vtMode        ← orDefault modeOf? defaults.vtMode mode
  let ambiguousWide ← orDefault flagOf? defaults.ambiguousWide wide
  let utf8Override  ← orDefault flagOf? defaults.utf8Override override
  some { lineCodepage, fontCharset, vtMode, ambiguousWide, utf8Override }

/-- The settings in a value.  A point in time names no setting, and so leaves all at their
defaults. -/
def ofValue? : Value → Option Settings
  | .table _ t =>
    ofFields? (Table.get? "line_codepage" t) (Table.get? "font_charset" t)
      (Table.get? "vt_mode" t) (Table.get? "cjk_ambig_wide" t) (Table.get? "utf8_override" t)
  | .array vs  => ofFields? vs[0]? vs[1]? vs[2]? vs[3]? vs[4]?
  | .moment    => some {}
  | _          => none

/-- The settings in a document. -/
def ofTable? (t : Table) : Option Settings := orDefault ofValue? {} (t.get? "translation")

/-- The settings in the text of a document. -/
def ofToml? (s : List Char) : Option Settings := (Toml.Document.read s).bind ofTable?

/-! ### Writing -/

/-- A truth value as it is written. -/
def writeFlag (b : Bool) : List Char := (if b then "true" else "false").toList

/-- A line with a key and a value. -/
def writeLine (key : String) (value : List Char) : List Char :=
  key.toList ++ " = ".toList ++ value ++ ['\n']

/-- The text of the document with these settings. -/
def toToml (s : Settings) : List Char :=
  "[translation]\n".toList ++
    writeLine "line_codepage" (Toml.Text.write s.lineCodepage.toList) ++
    writeLine "font_charset" (Toml.Text.write s.fontCharset.toList) ++
    writeLine "vt_mode" (Toml.Text.write s.vtMode.name.toList) ++
    writeLine "cjk_ambig_wide" (writeFlag s.ambiguousWide) ++
    writeLine "utf8_override" (writeFlag s.utf8Override)

end TerminalText.Settings
