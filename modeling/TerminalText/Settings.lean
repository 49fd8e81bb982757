import TerminalText.Translation

/-!
# Settings and the locale

What a user sets for a terminal line.  The two codepages are kept by name and resolved when they
are needed: an unknown name of the line's codepage gives UTF-8, an unknown name of the font's
encoding gives the font's own.

One of the settings heeds the locale that the environment selects: `Locale.isUtf8` says whether it
has UTF-8 for its codeset.  The name of a locale is `language_TERRITORY.codeset@modifier`; the
codeset follows the first dot.
-/

namespace TerminalText

/-! ### The locale -/

namespace Locale

/-- The variables of the environment, each unset or with a value. -/
abbrev Environment := String → Option String

/-- The variables that select the locale, the strongest first. -/
def precedence : List String := ["LC_ALL", "LC_CTYPE", "LANG"]

/-- The name of the locale: the first variable that is not empty. -/
def selected? (env : Environment) : Option String :=
  (precedence.filterMap env).find? (· ≠ "")

/-- What follows the first dot. -/
def afterFirstDot? : List Char → Option (List Char)
  | []     => none
  | c :: r => if c = '.' then some r else afterFirstDot? r

/-- The codeset in the name of a locale. -/
def codeset? (name : String) : Option (List Char) :=
  (afterFirstDot? name.toList).map (·.takeWhile (· ≠ '@'))

/-- The codeset is UTF-8 in one of its two spellings, in ASCII letters of either case. -/
def isUtf8Codeset (codeset : List Char) : Bool :=
  let s := codeset.map Char.toLower
  s = ['u', 't', 'f', '-', '8'] ∨ s = ['u', 't', 'f', '8']

/-- The selected locale has UTF-8 for its codeset. -/
def isUtf8 (env : Environment) : Bool :=
  match (selected? env).bind codeset? with
  | some codeset => isUtf8Codeset codeset
  | none         => false

end Locale

/-! ### Settings -/

/-- The settings of a terminal line. -/
structure Settings where
  /-- The name of the codepage of the line; blank for UTF-8. -/
  lineCodepage : String := "UTF-8"
  /-- The name of the encoding of the font, which counts where the line has no codepage. -/
  fontCharset : String := "Use font encoding"
  /-- How line drawing is shown. -/
  vtMode : VtMode := .unicode
  /-- Characters of ambiguous width take two columns. -/
  ambiguousWide : Bool := false
  /-- A locale with UTF-8 is heeded. -/
  utf8Override : Bool := true
  deriving DecidableEq, Repr

namespace Settings

/-- The codepage of the line. -/
def line (s : Settings) : Codepage := Codepage.resolve (some s.lineCodepage)

/-- The encoding of the font. -/
def font (s : Settings) : Codepage :=
  match Codepage.parse s.fontCharset with
  | .ok cp   => cp
  | .error _ => .raw

/-- A name that is not blank and that no codepage has. -/
def IsUnresolved (name : String) : Prop :=
  Text.trim name.toList ≠ [] ∧ Registry.lookup Registry.standard name = none

instance (name : String) : Decidable (IsUnresolved name) :=
  inferInstanceAs (Decidable (_ ∧ _))

/-- The names that were replaced, the line's first. -/
def unresolved (s : Settings) : List String :=
  [s.lineCodepage, s.fontCharset].filter (IsUnresolved ·)

/-- The tables for these settings. -/
def translation (s : Settings) : Translation := Translation.build s.line s.font s.vtMode

end Settings

end TerminalText
