import TerminalText.Codepage

/-!
# The registry of codepage names

A registry is a list of names, each with its codepage.  Names are compared as people vary them:
the separators and the case of ASCII letters do not count (`fold`).  A name that is not found as a
whole is taken for the name of a locale, `language_TERRITORY.codeset@modifier`, and its codeset is
looked up.

Two lookups are built on `lookup`: `parse` refuses a name that is not found, and `resolve` takes
UTF-8 in its place.
-/

namespace TerminalText

namespace Registry

/-- A name of a codepage; a listed one is offered for selection. -/
structure Entry where
  name : String
  codepage : Codepage
  listed : Bool
  deriving DecidableEq, Repr

/-- The names that are known. -/
def standard : List Entry :=
  [⟨"ISO-8859-1", .charset .latin1, true⟩,
   ⟨"ISO-8859-2", .charset .latin2, true⟩,
   ⟨"ISO-8859-5", .charset .cyrillic, true⟩,
   ⟨"ISO-8859-15", .charset .latin9, true⟩,
   ⟨"KOI8-R", .charset .koi8r, true⟩,
   ⟨"KOI8-U", .charset .koi8u, true⟩,
   ⟨"CP437", .charset .cp437, true⟩,
   ⟨"CP850", .charset .cp850, true⟩,
   ⟨"CP866", .charset .cp866, true⟩,
   ⟨"CP1251", .charset .cp1251, true⟩,
   ⟨"CP1252", .charset .cp1252, true⟩,
   ⟨"UTF-8", .utf8, true⟩,
   ⟨"Latin-1", .charset .latin1, false⟩,
   ⟨"Latin-2", .charset .latin2, false⟩,
   ⟨"Latin-9", .charset .latin9, false⟩,
   ⟨"IBM437", .charset .cp437, false⟩,
   ⟨"IBM850", .charset .cp850, false⟩,
   ⟨"IBM866", .charset .cp866, false⟩,
   ⟨"Windows-1251", .charset .cp1251, false⟩,
   ⟨"Windows-1252", .charset .cp1252, false⟩,
   ⟨Codepage.fontEncodingName, .raw, false⟩]

/-! ### Comparing names -/

/-- The separators that people vary. -/
def isSeparator (c : Char) : Bool := c = '-' ∨ c = '_' ∨ c = ' ' ∨ c = '.'

/-- What counts of a name: no separators, and ASCII letters in lower case. -/
def fold (name : List Char) : List Char :=
  (name.filter fun c => !isSeparator c).map Char.toLower

/-- The codepage of the first entry whose name agrees with the candidate. -/
def find (entries : List Entry) (candidate : List Char) : Option Codepage :=
  (entries.find? fun e => fold e.name.toList = fold candidate).map Entry.codepage

/-! ### Names of locales -/

/-- What follows the last dot. -/
def afterLastDot? : List Char → Option (List Char)
  | []     => none
  | c :: r =>
    match afterLastDot? r with
    | some s => some s
    | none   => if c = '.' then some r else none

/-- The codeset in the name of a locale: what follows the last dot, up to the modifier. -/
def codeset? (name : List Char) : Option (List Char) :=
  (afterLastDot? name).map (·.takeWhile (· ≠ '@'))

/-! ### Looking up -/

/-- The codepage of a name, taken whole or else for the name of a locale.  Blanks around it do not
count, and nothing is called by blanks alone. -/
def lookup (entries : List Entry) (name : String) : Option Codepage :=
  match Text.trim name.toList with
  | [] => none
  | s  =>
    match find entries s with
    | some cp => some cp
    | none    => (codeset? s).bind (find entries)

/-- The codepage of a name, or the error that it is unknown. -/
def parse (entries : List Entry) (name : String) : Except CodepageError Codepage :=
  match lookup entries name with
  | some cp => .ok cp
  | none    => .error (.unknownName name)

/-- The codepage of a configured name; UTF-8 if the name is missing or unknown. -/
def resolve (entries : List Entry) (name : Option String) : Codepage :=
  (name.bind (lookup entries)).getD .utf8

/-- The names offered for selection: the listed ones, then the font's own encoding. -/
def selection (entries : List Entry) : List String :=
  (entries.filter Entry.listed).map Entry.name ++ [Codepage.fontEncodingName]

end Registry

namespace Codepage

/-- The codepage of a name, or the error that it is unknown. -/
def parse (name : String) : Except CodepageError Codepage := Registry.parse Registry.standard name

/-- The codepage of a configured name; UTF-8 if the name is missing or unknown. -/
def resolve (name : Option String) : Codepage := Registry.resolve Registry.standard name

/-- The names offered for selection. -/
def selection : List String := Registry.selection Registry.standard

end Codepage

end TerminalText
