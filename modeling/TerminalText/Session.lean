import TerminalText.CellWidth
import TerminalText.Codepage.Encode
import TerminalText.Codepage.Decode
import TerminalText.Settings

/-!
# Sessions

A session is one terminal line at work: its settings, the tables made for them, and the bytes that
wait for the rest of their sequence.  Applying settings makes new tables and drops the bytes that
wait, for they came in under the old codepage.

Whoever holds the tables of a session keeps them as they were (`Snapshot`).  The tables are told
apart by the session and by the number of times its settings were applied, its `generation`, and
not by what they contain.

`Session.perform` answers one request, and `Session.run` a row of them.
-/

namespace TerminalText

/-- A terminal line at work. -/
structure Session where
  id : Nat
  settings : Settings
  translation : Translation
  /-- The tables are those of the settings. -/
  translation_eq : translation = settings.translation
  /-- How often settings were applied. -/
  generation : Nat
  /-- The bytes that wait for the rest of their sequence. -/
  held : List UInt8
  /-- The locale has UTF-8 for its codeset. -/
  utf8Locale : Bool

/-- The tables that a session had at some time. -/
structure Snapshot where
  session : Nat
  generation : Nat
  translation : Translation
  deriving DecidableEq

/-- What a session shows of itself. -/
structure Session.Status where
  settings : Settings
  codepage : Codepage
  mode : VtMode
  directToFont : Bool
  utf8Locale : Bool
  deriving DecidableEq, Repr

namespace Session

/-- A session at its start, where it is known whether the locale has UTF-8. -/
def start (id : Nat) (settings : Settings) (utf8Locale : Bool) : Session where
  id             := id
  settings       := settings
  translation    := settings.translation
  translation_eq := rfl
  generation     := 0
  held           := []
  utf8Locale     := utf8Locale

/-- A session at its start, in an environment; the settings say whether its locale is heeded. -/
def startIn (id : Nat) (settings : Settings) (env : Locale.Environment) : Session :=
  start id settings (settings.utf8Override && Locale.isUtf8 env)

/-- Replaces the settings. -/
def apply (s : Session) (settings : Settings) : Session :=
  { s with
    settings       := settings
    translation    := settings.translation
    translation_eq := rfl
    generation     := s.generation + 1
    held           := [] }

/-- The codepage of the line. -/
def codepage (s : Session) : Codepage := s.translation.codepage

/-- Takes bytes from the line, after those that wait. -/
def feed (s : Session) (bytes : List UInt8) : Session × List Nat :=
  let r := s.codepage.read (s.held ++ bytes)
  ({ s with held := r.held }, r.points)

/-- The bytes that send a text. -/
def encodeInput (s : Session) (text : String) (default : Option UInt8) : List UInt8 :=
  s.codepage.encode default (text.toList.map Char.toNat)

/-! ### Measuring -/

/-- The width of a code point; a font byte takes one cell, whatever its East Asian width. -/
def width (s : Session) (p : Nat) : CellWidth :=
  if CodePoint.IsFontByte p then .narrow else .ofPoint s.settings.ambiguousWide p

/-- The columns of a run of code points, which a NUL ends. -/
def runColumns (s : Session) (points : List Nat) : Option Nat :=
  CellWidth.total (fun p => (s.width p).columns) (points.takeWhile (· ≠ 0))

/-! ### The tables of a session -/

/-- The tables as they are now. -/
def snapshot (s : Session) : Snapshot := ⟨s.id, s.generation, s.translation⟩

/-- The session still has the tables of the snapshot. -/
def Holds (s : Session) (k : Snapshot) : Prop :=
  k.session = s.id ∧ k.generation = s.generation

instance (s : Session) (k : Snapshot) : Decidable (s.Holds k) :=
  inferInstanceAs (Decidable (k.session = s.id ∧ k.generation = s.generation))

/-- What a session shows of itself. -/
def status (s : Session) : Status :=
  ⟨s.settings, s.codepage, s.translation.mode, s.translation.directToFont, s.utf8Locale⟩

/-! ### Requests -/

/-- What a session can be asked. -/
inductive Request where
  | feed (bytes : List UInt8)
  | apply (settings : Settings)
  | width (point : Nat)
  | runColumns (points : List Nat)
  | encodeInput (text : String) (default : Option UInt8)
  | translate (byte : UInt8) (slot : Slot)
  | snapshot
  | status
  deriving DecidableEq, Repr

/-- What a session answers. -/
inductive Answer where
  | points (ps : List Nat)
  | applied (codepage : Codepage) (directToFont : Bool)
  | width (w : CellWidth)
  | columns (n : Option Nat)
  | bytes (bs : List UInt8)
  | shown (point : Nat) (control : Bool)
  | snapshot (k : Snapshot)
  | status (t : Status)
  deriving DecidableEq

/-- Answers a request. -/
def perform (s : Session) : Request → Session × Answer
  | .feed bytes            =>
    let r := s.feed bytes
    (r.1, .points r.2)
  | .apply settings        =>
    let s' := s.apply settings
    (s', .applied s'.codepage s'.translation.directToFont)
  | .width p               => (s, .width (s.width p))
  | .runColumns ps         => (s, .columns (s.runColumns ps))
  | .encodeInput text dflt => (s, .bytes (s.encodeInput text dflt))
  | .translate b slot      =>
    (s, .shown (s.translation.translate b slot) (s.translation.isControl b))
  | .snapshot              => (s, .snapshot s.snapshot)
  | .status                => (s, .status s.status)

/-- Answers requests one after another. -/
def run (s : Session) : List Request → Session × List Answer
  | []      => (s, [])
  | q :: qs =>
    let r := s.perform q
    let rs := r.1.run qs
    (rs.1, r.2 :: rs.2)

end Session

end TerminalText
