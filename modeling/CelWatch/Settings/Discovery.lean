import CelWatch.Files.Tree
import CelWatch.Settings.Read
import CelWatch.Warning

/-!
Finding the settings that hold for a directory. The nearest settings file in
the directory or above it counts; where there is none, one in a directory
inside it; else the defaults. A file that cannot be used counts all the same,
as one that says nothing.
-/

namespace CelWatch.Settings

/-- The name of a settings file. -/
def fileName : List UInt8 := Text.encode "settings.toml".toList

/-- Why a file gives no settings. -/
inductive LoadFault where
  | unread (cause : ReadFault)
  | unparsed
deriving DecidableEq, Repr

/-- The warning about a file that gives no settings; a missing file is none to
warn about. -/
def LoadFault.warning? (path : FilePath) : LoadFault → Option Warning
  | .unread .notFound => none
  | .unread _ => some (.unreadableSettings path)
  | .unparsed => some (.badSettings path)

/-- The settings that the content of a file says. -/
def ofBytes (bytes : List UInt8) : Except LoadFault Settings :=
  match Text.decode? bytes with
  | none => .error (.unread .notText)
  | some text => match parse? text with
    | none => .error .unparsed
    | some settings => .ok settings

/-- The settings of what was read of a file. -/
def ofContent : Except ReadFault (List UInt8) → Except LoadFault Settings
  | .error cause => .error (.unread cause)
  | .ok bytes => ofBytes bytes

/-- The settings with the warnings about them; defaults for a file that gives
none. -/
def orDefault (path : FilePath) : Except LoadFault Settings → Settings × List Warning
  | .ok settings => (settings, [])
  | .error fault => (default, (fault.warning? path).toList)

variable {m : Type → Type} [Monad m]

/-- Reads a settings file. -/
def read (files : FileAccess m) (path : FilePath) : m (Except LoadFault Settings) := do
  return ofContent (← files.read path)

/-- Reads a settings file; gives defaults for one that cannot be used. -/
def load (files : FileAccess m) (path : FilePath) : m (Settings × List Warning) := do
  return orDefault path (← read files path)

/-- The first of some directories that holds a settings file. -/
def firstHolder? (files : FileAccess m) : List FilePath → m (Option FilePath)
  | [] => return none
  | directory :: rest => do
    if ← files.isFile (directory.join fileName) then return some directory
    else firstHolder? files rest

/-- What was found for a directory, and where. -/
structure Discovery where
  settings : Settings
  directory : FilePath
  warnings : List Warning
deriving Repr

/-- Loads the settings file of a directory that holds one. -/
def loadFrom (files : FileAccess m) (directory : FilePath) : m Discovery := do
  let (settings, warnings) ← load files (directory.join fileName)
  return ⟨settings, directory, warnings⟩

/-- The settings for a directory. -/
def discover (files : FileAccess m) (start : FilePath) : m Discovery := do
  match ← firstHolder? files start.ancestors with
  | some directory => loadFrom files directory
  | none =>
    match ← firstHolder? files (← files.subdirectories start) with
    | some directory => loadFrom files directory
    | none => return ⟨default, start, []⟩

end CelWatch.Settings
