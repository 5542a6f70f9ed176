/-
Settings in force, and their file.

Settings are saved by writing them beside the file and then moving them to its place, so
whatever fails before the last step leaves the file as it was.  Only settings that were
saved come into force.
-/
import Dialogue.Settings.Edit
import Dialogue.Settings.Json
import Dialogue.Settings.Layered
import Dialogue.Disk.Path
import Dialogue.Text.Quoted

namespace Dialogue

namespace Settings

/-- Why settings were not changed. -/
inductive ChangeError where
  | edit (e : EditError)
  | createDirectory (path : String) (cause : DiskRefusal)
  | writeFile (path : String) (cause : DiskRefusal)
  | replaceFile (source target : String) (cause : DiskRefusal)
  deriving DecidableEq, Repr

/-- What failed, at which path and at which step. -/
def ChangeError.message : ChangeError → String
  | .edit e => e.message
  | .createDirectory path cause =>
    "failed to create settings directory at " ++ Text.quoted path
      ++ " on `create-settings-directory`: " ++ cause.message
  | .writeFile path cause =>
    "failed to write settings file at " ++ Text.quoted path
      ++ " on `write-temporary-settings-file`: " ++ cause.message
  | .replaceFile source target cause =>
    "failed to replace settings file from " ++ Text.quoted source ++ " to " ++ Text.quoted target
      ++ " on `rename-temporary-settings-file`: " ++ cause.message

/-! ### The place of the file -/

/-- The directory of the settings. -/
def directoryName : String := "parley"

/-- The file of the settings. -/
def fileName : String := "settings.json"

/-- The directory of the settings: below the configuration directory if that is absolute,
else below the one in the home directory, and if no home is known, a hidden one here. -/
def defaultDirectory (home configHome : Option String) : String :=
  match configHome.filter Path.isAbsolute, home.filter (· ≠ "") with
  | some dir, _ => Path.join dir directoryName
  | none, some home => Path.join (Path.join home ".config") directoryName
  | none, none => ".parley"

/-- Where the settings are kept. -/
def defaultPath (home configHome : Option String) : String :=
  Path.join (defaultDirectory home configHome) fileName

/-- Where settings are written before they take the file's place. -/
def temporaryPath (path : String) : String := Path.withExtension path "json.tmp"

/-! ### Saving -/

variable {m : Type → Type} [Monad m]

/-- Asks a disk, and tells a refusal as an error. -/
def attempt (operation : m (Except DiskRefusal Unit)) (error : DiskRefusal → ChangeError) :
    ExceptT ChangeError m Unit :=
  ExceptT.mk do return (← operation).mapError error

/-- Writes settings to their file. -/
def save (disk : Disk m) (path : String) (s : Settings) : ExceptT ChangeError m Unit := do
  if let some parent := Path.parent? path then
    attempt (disk.createDirs parent) (.createDirectory parent)
  let temporary := temporaryPath path
  attempt (disk.write temporary (Text.Utf8.encode s.fileText.toList)) (.writeFile temporary)
  attempt (disk.rename temporary path) (.replaceFile temporary path)

end Settings

/-- The settings in force and the path of their file. -/
structure KeptSettings where
  path : String
  current : Settings
  deriving DecidableEq, Repr

namespace KeptSettings

variable {m : Type → Type} [Monad m]

/-- The settings that hold at the start, from their file and the environment. -/
def load (disk : Disk m) (path : String) (environment : List (String × String)) :
    m KeptSettings := do
  return ⟨path, Settings.ofFound (← disk.look path) environment⟩

/-- Saves settings in normal form and puts them into force. -/
def update (disk : Disk m) (k : KeptSettings) (s : Settings) :
    m (Except Settings.ChangeError Unit × KeptSettings) := do
  match ← (Settings.save disk k.path s.normalized).run with
  | .ok () => return (.ok (), { k with current := s.normalized })
  | .error e => return (.error e, k)

/-- Changes one setting, saves all and puts them into force. -/
def set (disk : Disk m) (k : KeptSettings) (key value : String) :
    m (Except Settings.ChangeError Unit × KeptSettings) :=
  match k.current.setField key value with
  | .error e => return (.error (.edit e), k)
  | .ok s => k.update disk s

end KeptSettings

end Dialogue
