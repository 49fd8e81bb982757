import TerminalText.Toml.Text

/-!
# Writing texts

A text is written in the plainest form that holds it: between double quotes, between single quotes,
between three of either, or with escapes (`Form.ofText`).  A newline escapes the form on one line
and stands for itself in one on several; a text with newlines starts on a line of its own.

A tab is escaped between double quotes although it need not be.
-/

namespace TerminalText.Toml.Text

/-! ### What a text holds -/

/-- A control other than a tab or a newline. -/
def isControl (c : Char) : Bool := c.toNat < 0x20 && c ≠ '\t' && c ≠ '\n' || c.toNat = 0x7F

/-- The most times a character stands in a row in a text; `run` of it stand before the text. -/
def longestRun (x : Char) : (run : Nat) → List Char → Nat
  | run, []     => run
  | run, c :: r => if c = x then longestRun x (run + 1) r else max run (longestRun x 0 r)

/-! ### Forms -/

/-- A way to write a text. -/
inductive Form where
  | basic
  | literal
  | multilineBasic
  | multilineLiteral
  deriving DecidableEq, Repr

/-- The form in which a text is written. -/
def Form.ofText (s : List Char) : Form :=
  let controls := s.any isControl
  let newline  := s.contains '\n'
  let escape   := s.contains '\\'
  let doubles  := longestRun '"' 0 s
  let singles  := longestRun '\'' 0 s
  if !controls && !escape && doubles = 0 && !newline then basic
  else if !controls && singles = 0 && !newline then literal
  else if !controls && !escape && doubles ≤ 2 then multilineBasic
  else if !controls && singles ≤ 2 then multilineLiteral
  else if newline then multilineBasic
  else basic

/-! ### Escapes -/

/-- A digit of the hexadecimal system, in upper case. -/
def upperDigit (n : Nat) : Char := (Nat.digitChar n).toUpper

/-- A control named by its number, such as `\u001B`. -/
def writeNamed (c : Char) : List Char :=
  ['\\', 'u', '0', '0', upperDigit (c.toNat / 16), upperDigit (c.toNat % 16)]

/-- A character other than a quote as it stands between double quotes. -/
def writeChar (multiline : Bool) (c : Char) : List Char :=
  match c with
  | '\x08' => ['\\', 'b']
  | '\t'   => ['\\', 't']
  | '\n'   => if multiline then ['\n'] else ['\\', 'n']
  | '\x0C' => ['\\', 'f']
  | '\r'   => ['\\', 'r']
  | '\\'   => ['\\', '\\']
  | _      => if isControl c then writeNamed c else [c]

/-- How many quotes may stand in a row between double quotes. -/
def maxRun (multiline : Bool) : Nat := if multiline then 2 else 0

/-- A text as it stands between double quotes, where `run` quotes stand before it.  Of quotes in a
row, one is escaped where the others would be too many. -/
def writeBasic (multiline : Bool) : (run : Nat) → List Char → List Char
  | _,   []     => []
  | run, c :: r =>
    if c = '"' then
      if run < maxRun multiline then '"' :: writeBasic multiline (run + 1) r
      else '\\' :: '"' :: writeBasic multiline 0 r
    else writeChar multiline c ++ writeBasic multiline 0 r

/-! ### A text with its quotes -/

/-- The newline after the opening quotes of a text with newlines. -/
def leading (s : List Char) : List Char := if s.contains '\n' then ['\n'] else []

/-- A text in a form, with its quotes. -/
def writeIn (s : List Char) : Form → List Char
  | .basic            => ['"'] ++ writeBasic false 0 s ++ ['"']
  | .literal          => ['\''] ++ s ++ ['\'']
  | .multilineBasic   => ['"', '"', '"'] ++ leading s ++ writeBasic true 0 s ++ ['"', '"', '"']
  | .multilineLiteral => ['\'', '\'', '\''] ++ leading s ++ s ++ ['\'', '\'', '\'']

/-- A text with its quotes. -/
def write (s : List Char) : List Char := writeIn s (Form.ofText s)

end TerminalText.Toml.Text
