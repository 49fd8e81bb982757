import TerminalText.Codepage.Decode
import TerminalText.FileTree
import TerminalText.Settings.Toml

/-!
# Settings in a file

Settings are kept in a file of the user's configuration.  Loading gives the defaults where a route
leads to nothing; saving makes the directories that are missing, and leaves the file to its owner
alone.

Where the file of a user is, is for the system to say: `loadOwn` and `saveOwn` take its place as it
is given, or that there is none.  `defaultFile` is where it is in the home of a user; without a home
there is no such file.
-/

namespace TerminalText

namespace Settings

/-- Why settings cannot be loaded or saved. -/
inductive FileFault where
  /-- The file system refuses. -/
  | file (e : FileError)
  /-- The file holds bytes that are no UTF-8. -/
  | notUtf8
  /-- The file holds no document of settings. -/
  | notSettings
  /-- The user has no directory of configurations. -/
  | noDirectory
  deriving DecidableEq, Repr

/-- The wording of a fault; what a document lacks to be settings has no fixed one. -/
def FileFault.message? : FileFault → Option String
  | file e      => some ("Failed to read config file: " ++ e.message)
  | notUtf8     => some "Failed to read config file: stream did not contain valid UTF-8"
  | notSettings => none
  | noDirectory => some "Config directory not found"

/-! ### Where the file is -/

/-- The variable that names the directory of configurations. -/
inductive ConfigHome where
  | unset
  /-- Empty or no absolute path, and so not heeded. -/
  | relative
  | absolute (r : Route)
  deriving DecidableEq, Repr

/-- The directory of configurations. -/
def configDirectory (home : Route) : ConfigHome → Route
  | .absolute r => r
  | _           => home.child ".config"

/-- The file with the settings of a user who has a home. -/
def defaultFile (home : Route) (config : ConfigHome) : Route :=
  ((configDirectory home config).child "termucs").child "config.toml"

/-! ### Loading and saving -/

/-- The text of some bytes, if all of them are UTF-8. -/
def decodeText? (bytes : List UInt8) : Option (List Char) :=
  let d := Codepage.utf8.decode bytes
  if d.consumed = bytes.length then some (d.points.map Char.ofNat) else none

/-- The bytes of a text. -/
def encodeText (s : List Char) : List UInt8 := s.flatMap fun c => Utf8.encode c.toNat

/-- The settings in a file. -/
def load (t : FileTree) (r : Route) : Except FileFault Settings :=
  match t.lookup r with
  | .error _ => .ok {}
  | .ok _    =>
    match t.read r with
    | .error e  => .error (.file e)
    | .ok bytes =>
      match decodeText? bytes with
      | none   => .error .notUtf8
      | some s =>
        match ofToml? s with
        | none          => .error .notSettings
        | some settings => .ok settings

/-- The mode of a file that is its owner's alone. -/
def privateMode : Nat := 0o600

/-- Writes settings into a file. -/
def save (s : Settings) (t : FileTree) (r : Route) : FileTree.Outcome :=
  (t.makeDirectories r.parent).andThen fun t₁ =>
    (t₁.write (encodeText s.toToml) r).andThen fun t₂ => (t₂.setMode privateMode r).done

/-! ### The user's own file -/

/-- The settings of a user, in the file that the system keeps for them, if it keeps one. -/
def loadOwn (t : FileTree) : (file? : Option Route) → Except FileFault Settings
  | none   => .error .noDirectory
  | some r => load t r

/-- Writes the settings of a user into the file that the system keeps for them, if it keeps one. -/
def saveOwn (s : Settings) (t : FileTree) :
    (file? : Option Route) → FileTree × Except FileFault Unit
  | none   => (t, .error .noDirectory)
  | some r =>
    let o := s.save t r
    (o.tree, o.result.mapError .file)

/-- The settings of the user, who may have no home. -/
def loadDefault (t : FileTree) (home : Option Route) (config : ConfigHome) :
    Except FileFault Settings :=
  loadOwn t (home.map (defaultFile · config))

/-- Writes the settings of the user. -/
def saveDefault (s : Settings) (t : FileTree) (home : Option Route) (config : ConfigHome) :
    FileTree × Except FileFault Unit :=
  s.saveOwn t (home.map (defaultFile · config))

end Settings

end TerminalText
