/-!
# Why a disk refuses

The reasons for which reading or changing files fails, with the words and the
number that the operating system has for each.
-/

namespace ReleaseCatalog

/-- Why an action on the disk failed. -/
inductive DiskError where
  | notFound
  | alreadyExists
  | notDirectory
  | isDirectory
  | nameTooLong
  /-- The path names something that is in use by its nature, such as the
  directory `.`. -/
  | busy
  | noSpace
  | denied
  /-- A null character stands in the path. -/
  | nullInPath
  /-- The bytes of a file that should be a text are none. -/
  | notText
deriving DecidableEq

namespace DiskError

/-- The operating system's words and number. -/
def message : DiskError → String
  | notFound => "No such file or directory (os error 2)"
  | alreadyExists => "File exists (os error 17)"
  | notDirectory => "Not a directory (os error 20)"
  | isDirectory => "Is a directory (os error 21)"
  | busy => "Device or resource busy (os error 16)"
  | nameTooLong => "File name too long (os error 36)"
  | noSpace => "No space left on device (os error 28)"
  | denied => "Permission denied (os error 13)"
  | nullInPath => "file name contained an unexpected NUL byte"
  | notText => "stream did not contain valid UTF-8"

end DiskError

end ReleaseCatalog
