import ReleaseCatalog.Date.Calendar
import ReleaseCatalog.Text.Blank
import ReleaseCatalog.Text.Lower

/-!
# Platforms

The operating systems and processor architectures that tarballs are built for. A
name from outside is read without regard to case and to blanks around it, and
the spellings in use for one platform become one value; a name that is not known
stays as it is, in lower case.

`Host` is what an operation needs to know of its surroundings besides the files:
the platform that the tool runs on, its process and the time.
-/

namespace ReleaseCatalog

open Text

inductive OperatingSystem where
  | linux
  | darwin
  /-- Any other one, by its name. -/
  | other (name : String)
deriving DecidableEq

inductive Architecture where
  | amd64
  | arm64
  /-- Any other one, by its name. -/
  | other (name : String)
deriving DecidableEq

/-- A name in lower case, without blanks around it. -/
def plainName (s : String) : String := lowered (trimmed s)

def OperatingSystem.ofText (s : String) : OperatingSystem :=
  let name := plainName s
  if name = "linux" then linux
  else if name ∈ ["darwin", "osx", "macos", "os x"] then darwin
  else other name

/-- The name that the catalog uses for an operating system. -/
def OperatingSystem.name : OperatingSystem → String
  | linux => "linux"
  | darwin => "darwin"
  | other name => name

def Architecture.ofText (s : String) : Architecture :=
  let name := plainName s
  if name ∈ ["amd64", "x86_64", "x86-64"] then amd64
  else if name ∈ ["arm64", "aarch64"] then arm64
  else other name

/-- The name that the catalog uses for an architecture. -/
def Architecture.name : Architecture → String
  | amd64 => "amd64"
  | arm64 => "arm64"
  | other name => name

/-- What the tool runs on and when. -/
structure Host where
  os : OperatingSystem
  arch : Architecture
  /-- The number of the running process, which tells its temporary files from
  those of others. -/
  processId : Nat
  now : Timestamp

end ReleaseCatalog
