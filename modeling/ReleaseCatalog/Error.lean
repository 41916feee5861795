import ReleaseCatalog.Disk.Cause
import ReleaseCatalog.FileName
import ReleaseCatalog.Json.Printer
import ReleaseCatalog.Order
import ReleaseCatalog.Path
import ReleaseCatalog.Request

/-!
# What can go wrong

Each way in which an operation of the catalog fails is a constructor of `Error`,
with what is needed to tell the user; `Error.message` tells it.
-/

namespace ReleaseCatalog

open Text

/-- One thing that is wrong with an entry of a catalog, or with the catalog itself. -/
structure Issue where
  /-- The entry's name, or what stands for it. -/
  name : String
  issue : String
deriving DecidableEq

/-- Why a server did not answer with what was asked of it. -/
inductive FetchError where
  /-- There was no answer at all. -/
  | network
  | notFound (url : String)
  | unexpectedStatus (url : String) (status : Nat)
deriving DecidableEq

/-- Why an operation failed. -/
inductive Error where
  | unknownOrder (label : String)
  | emptyOrigin
  | emptyAddition
  | notAFileName (path : Path)
  | noSuchName (name : String)
  | noSuchUrl (url : String)
  | noMatch (request : Request)
  | noFamily (request : Request)
  | noPatchRelease (flavor shortVersion : String) (os : OperatingSystem)
  /-- Several tarballs match, and the newest was not asked for. -/
  | severalMatch (names : List String)
  /-- Several tarballs of the newest version match. -/
  | sameVersion (names : List String)
  | guessNotAllowed (shortVersion : String) (allowed : List String)
  | noGuessRule (os : OperatingSystem) (supported : List String)
  | checksumMismatch (expected found : String)
  | checksumFormat (text : String)
  | corruptDocument (path : Path)
  | invalidEntries (issues : List Issue)
  | repeatedName (name : String)
  | repeatedBuild (build : Build)
  | missingFields (template : String) (fields : List String)
  | disk (path : Path) (cause : DiskError)
  | fetch (cause : FetchError)
  | unidentified (property : FileName.Property) (name : String)
deriving DecidableEq

/-- A property of file names, in words. -/
def FileName.Property.text : FileName.Property → String
  | flavor => "flavor"
  | os => "OS"
  | arch => "architecture"
  | version => "version/short version"

def Issue.toJson (i : Issue) : Json := .record [("name", .text i.name), ("issue", .text i.issue)]

def truthText (b : Bool) : String := if b then "true" else "false"

namespace FetchError

def message : FetchError → String
  | network => "Network error"
  | notFound url => "Remote file not found: " ++ url
  | unexpectedStatus url status => "Received status " ++ toString status ++ " from " ++ url

end FetchError

namespace Error

def message : Error → String
  | unknownOrder label =>
    "Invalid argument: invalid sort criteria: " ++ label ++ ". Expected one of: "
      ++ ", ".intercalate (SortKey.all.map SortKey.label)
  | emptyOrigin => "Invalid argument: empty origin collection"
  | emptyAddition => "Invalid argument: empty additional collection"
  | notAFileName path => "Invalid argument: " ++ path.text ++ " is not a file name"
  | noSuchName name => "Not found: tarball " ++ name ++ " not found"
  | noSuchUrl url => "Not found: tarball with URL " ++ url ++ " not found"
  | noMatch request => "Not found: tarball with " ++ request.text ++ " not found"
  | noFamily request => "Not found: no published tarball to guess from with " ++ request.text
  | noPatchRelease flavor shortVersion os =>
    "Not found: no published patch version for " ++ flavor ++ " " ++ shortVersion ++ " on "
      ++ os.name
  | severalMatch names =>
    "More than one tarball found with current search criteria (" ++ " ".intercalate names
      ++ "). Get it by name instead (or ask for the newest)"
  | sameVersion names =>
    "Tarballs " ++ " and ".intercalate names
      ++ " have the same version. Get the one you want by name"
  | guessNotAllowed shortVersion allowed =>
    "Can only guess versions " ++ ", ".intercalate allowed ++ "; " ++ shortVersion
      ++ " is not one of them"
  | noGuessRule os supported =>
    "No guess rule for operating system " ++ os.name ++ "; supported: "
      ++ ", ".intercalate supported
  | checksumMismatch expected found =>
    "Unmatched checksum: expected '" ++ expected ++ "' but found '" ++ found ++ "'"
  | checksumFormat text =>
    "Invalid checksum format '" ++ text
      ++ "'. Expected: (MD5|SHA1|SHA256|SHA512):CHECKSUM_STRING"
  | corruptDocument path => "Corrupt registry document " ++ path.quoted
  | invalidEntries issues =>
    "Validation errors\n" ++ (Json.list (issues.map Issue.toJson)).pretty
  | repeatedName name => "Tarball name " ++ name ++ " listed more than once"
  | repeatedBuild b =>
    String.join ["Tarball with OS ", b.os, "-", b.arch, ", flavor ", b.flavor, ", version ",
      b.version, ", and minimal ", truthText b.minimal, " listed more than once"]
  | missingFields template fields =>
    "Template error: template " ++ quoted template ++ ": required data for "
      ++ (if fields.length = 1 then "field" else toString fields.length ++ " fields")
      ++ " not populated: " ++ quotedList fields
  | disk path cause => "I/O error on " ++ path.quoted ++ ": " ++ cause.message
  | fetch cause => "Fetch error: " ++ cause.message
  | unidentified property name =>
    "Identify error: Unable to identify " ++ property.text ++ " of " ++ name

end Error

def SortKey.ofLabel (s : String) : Except Error SortKey :=
  match ofLabel? s with
  | some key => .ok key
  | none => .error (.unknownOrder s)

end ReleaseCatalog
