import TerminalText.Session.Pool
import TerminalText.Settings.File
import TerminalText.Proofs.Utf8.Table
import TerminalText.Proofs.Utf8.Head
import TerminalText.Proofs.Charset
import TerminalText.Proofs.Codepage.Decode
import TerminalText.Proofs.Codepage.Stream
import TerminalText.Proofs.Codepage.Turns
import TerminalText.Proofs.Utf8.Substitution
import TerminalText.Proofs.Session.Stream
import TerminalText.Proofs.Toml.Document
import TerminalText.Proofs.Toml.Text
import TerminalText.Proofs.FileTree
import TerminalText.Proofs.Settings.File
import TerminalText.Proofs.Codepage.Encode
import TerminalText.Proofs.Translation
import TerminalText.Proofs.Session.Line
import TerminalText.Proofs.CellWidth
import TerminalText.Proofs.Session.Columns
import TerminalText.Proofs.Interval
import TerminalText.Proofs.CellWidth.Classes
import TerminalText.Proofs.Codepage.Buffer
import TerminalText.Proofs.Session.Pool
import TerminalText.Proofs.Session.Tables
import TerminalText.Proofs.CellWidth.Ambiguous
import TerminalText.Proofs.Codepage.Registry
import TerminalText.Proofs.Codepage.LocaleName
import TerminalText.Proofs.Settings.Lines
import TerminalText.Proofs.FileTree.Operations
import TerminalText.Proofs.Locale
import TerminalText.Proofs.Settings.Save
