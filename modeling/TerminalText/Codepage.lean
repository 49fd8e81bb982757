import TerminalText.Charset
import TerminalText.Text

/-!
# Codepages

What the bytes of a terminal line mean: UTF-8, one of the single-byte charsets, or nothing but the
positions of the font (`raw`).  A codepage has a name and a number; `ofId` finds it by its number,
and the registry finds it by a name.
-/

namespace TerminalText

/-- The meaning of the bytes on a line. -/
inductive Codepage where
  | utf8
  | raw
  | charset (c : Charset)
  deriving DecidableEq, Repr

/-- Why a codepage was not found. -/
inductive CodepageError where
  | unknownName (name : String)
  | unknownId (id : Nat)
  deriving DecidableEq, Repr

/-- The wording of an error. -/
def CodepageError.message : CodepageError → String
  | unknownName name => "Unknown codepage name: " ++ Text.quote name
  | unknownId id     => "Unknown codepage id: " ++ toString id

namespace Codepage

/-- The codepage where none is named. -/
instance : Inhabited Codepage := ⟨utf8⟩

/-- The name under which the font's own encoding is offered. -/
def fontEncodingName : String := "Use font encoding"

/-- The number of a codepage: 65001 for UTF-8, zero for the font's own encoding. -/
def id : Codepage → Nat
  | utf8      => 65001
  | raw       => 0
  | charset c => c.id

/-- The name under which a codepage is shown. -/
def name : Codepage → String
  | utf8      => "UTF-8"
  | raw       => fontEncodingName
  | charset c => c.name

/-- Bytes go to the font without a meaning. -/
def isRaw : Codepage → Bool
  | raw => true
  | _   => false

/-- The codepage of a number. -/
def ofId (n : Nat) : Except CodepageError Codepage :=
  if n = utf8.id then .ok utf8
  else if n = raw.id then .ok raw
  else match Charset.all.find? fun c => c.id = n with
    | some c => .ok (charset c)
    | none   => .error (.unknownId n)

/-- A codepage is found by its number. -/
theorem ofId_id (cp : Codepage) : ofId cp.id = .ok cp := by
  rcases cp with _ | _ | c
  · rfl
  · rfl
  · cases c <;> rfl

end Codepage

end TerminalText
