import ReleaseCatalog.Disk.Cause
import ReleaseCatalog.Path
import ReleaseCatalog.Text.Utf8

/-!
# The files of a disk

A disk holds files and directories at places, a place being the list of names
that leads there from the root. `Disk.locate` finds the place that a path names,
and fails where the operating system would: on a name that is too long, below
something that is not there, below a file.
-/

namespace ReleaseCatalog

open Text

/-- Names that lead from the root to a file or directory. -/
abbrev Place := List String

/-- A file with its bytes, or a directory, each with its permission bits. -/
inductive Node where
  | file (bytes : List UInt8) (mode : Nat)
  | directory (mode : Nat)
deriving DecidableEq

def Node.mode : Node → Nat
  | .file _ mode => mode
  | .directory mode => mode

/-- The files and directories below the root. -/
structure Disk where
  nodes : List (Place × Node) := []

namespace Disk

/-- What stands at a place. The root is always there. -/
def node? (d : Disk) (place : Place) : Option Node :=
  if place = [] then some (.directory 0o755) else d.nodes.lookup place

/-- The disk without what stands at a place. -/
def erase (d : Disk) (place : Place) : Disk := ⟨d.nodes.filter (·.1 ≠ place)⟩

/-- The disk with something put at a place, in place of what stood there. -/
def put (d : Disk) (place : Place) (node : Node) : Disk :=
  ⟨(place, node) :: (d.erase place).nodes⟩

def longestName : Nat := 255

def longestPath : Nat := 4095

/-- Goes from a place along the parts of a path. Each part but the last has to
lead to a directory. -/
def follow (d : Disk) (place : Place) : List (List Char) → Except DiskError Place
  | [] => .ok place
  | part :: rest =>
    match d.node? place with
    | none => .error .notFound
    | some (.file ..) => .error .notDirectory
    | some (.directory _) =>
      if Path.isFiller part then d.follow place rest
      else if part = ['.', '.'] then d.follow place.dropLast rest
      else if longestName < (Utf8.encode part).length then .error .nameTooLong
      else d.follow (place ++ [String.ofList part]) rest

/-- The parts of a path, if the operating system takes it for one. -/
def partsOf (p : Path) : Except DiskError (List (List Char)) :=
  if p.text = "" then .error .notFound
  else if p.text.toList.contains '\x00' then .error .nullInPath
  else if longestPath < (Utf8.bytes p.text).length then .error .nameTooLong
  else .ok (pieces '/' p.text.toList)

/-- The place that a path names. A relative path starts at the root, too. -/
def locate (d : Disk) (p : Path) : Except DiskError Place := do
  d.follow [] (← partsOf p)

/-- The directory that a path leads to, and the last part of the path. Slashes
at the end do not count. -/
def locateLast (d : Disk) (p : Path) : Except DiskError (Place × List Char) := do
  let parts := ((← partsOf p).reverse.dropWhile (· = [])).reverse
  let directory ← d.follow [] (parts.dropLast ++ [[]])
  return (directory, (parts.getLast?).getD [])

/-- What a path names. -/
def find (d : Disk) (p : Path) : Except DiskError Node := do
  match d.node? (← d.locate p) with
  | some node => return node
  | none => throw .notFound

def exists? (d : Disk) (p : Path) : Bool := (d.find p).isOk

def isDirectory (d : Disk) (p : Path) : Bool :=
  match d.find p with
  | .ok (.directory _) => true
  | _ => false

/-- The bytes of the file that a path names. -/
def read (d : Disk) (p : Path) : Except DiskError (List UInt8) := do
  match ← d.find p with
  | .file bytes _ => return bytes
  | .directory _ => throw .isDirectory

/-- The text of the file that a path names. -/
def readText (d : Disk) (p : Path) : Except DiskError (List Char) := do
  match Utf8.decode? (← d.read p) with
  | some text => return text
  | none => throw .notText

/-- The names in the directory that a path names, in ascending order. -/
def names (d : Disk) (p : Path) : Except DiskError (List String) := do
  let place ← d.locate p
  match d.node? place with
  | some (.directory _) =>
    let inside := d.nodes.filterMap fun (at_, _) =>
      if at_.dropLast = place then at_.getLast? else none
    return inside.mergeSort (· ≤ ·)
  | some (.file ..) => throw .notDirectory
  | none => throw .notFound

end Disk

end ReleaseCatalog
