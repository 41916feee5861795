import ReleaseCatalog.Disk.Machine
import ReleaseCatalog.Log

/-!
# The log file

A process may set up one log file, to which every event that its filter lets
through is written from then on.
-/

namespace ReleaseCatalog

/-- Why a log could not be set up. -/
inductive LogError where
  | notAFileName (path : Path)
  | directory (path : Path) (cause : DiskError)
  | alreadySetUp
deriving DecidableEq

def LogError.message : LogError → String
  | notAFileName path => "Invalid log file path: " ++ path.quoted
  | directory path cause =>
    "Failed to create log directory " ++ path.quoted ++ ": " ++ cause.message
  | alreadySetUp =>
    "Failed to install subscriber: a global default trace dispatcher has already been set"

/-- A log file that is in use. -/
structure LogFile where
  path : Path
  filter : Filter

namespace LogFile

/-- The permission bits of a directory made for the log. -/
def directoryMode : Nat := 0o755

def directoryOf (path : Path) : Path := (path.parent?.filter (·.text ≠ "")).getD ⟨"."⟩

/-- Sets up the log of a process that may have one already. The directory is
made if it is missing, even if the log is refused after that. -/
def setUp (current : Option LogFile) (path : Path) (setting : Option String) :
    ExceptT LogError (StateM Machine) LogFile := do
  if path.fileName? = none then throw (.notAFileName path)
  ExceptT.adapt (.directory (directoryOf path)) (makeDirectories directoryMode (directoryOf path))
  if current.isSome then throw .alreadySetUp
  return ⟨path, .ofSetting setting⟩

/-- The events that are written to the file. -/
def written (l : LogFile) (events : List Event) : List Event := events.filter l.filter.passes

end LogFile

end ReleaseCatalog
