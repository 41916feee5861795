import ReleaseCatalog.Disk.Tree

/-!
# Actions on a disk

The steps of which every change of files is made. An action touches only what its
paths name, and one that fails changes nothing. `Disk.act` is the meaning of an
action on a disk that works as it should; `Machine.perform` adds disks that refuse.
-/

namespace ReleaseCatalog

/-- One change of a disk. -/
inductive Action where
  | makeDirectory (path : Path) (mode : Nat)
  /-- Opens a file for writing: made if it is not there, emptied if it is. -/
  | create (path : Path)
  /-- Puts bytes behind those of an open file. -/
  | append (path : Path) (bytes : List UInt8)
  /-- Makes sure that what was written is on the disk. -/
  | sync (path : Path)
  /-- Gives a file another name, in place of the file of that name. -/
  | rename (path target : Path)
  | remove (path : Path)

namespace Disk

def fileMode : Nat := 0o644

/-- The disk after an action. -/
def act (d : Disk) : Action → Except DiskError Disk
  | .makeDirectory path mode => do
    let (above, last) ← d.locateLast path
    let place ← d.follow above [last]
    match d.node? place with
    | some _ => throw .alreadyExists
    | none => return d.put place (.directory mode)
  | .create path => do
    if path.endsInSlash then throw .isDirectory
    let place ← d.locate path
    match d.node? place with
    | some (.directory _) => throw .isDirectory
    | some (.file _ mode) => return d.put place (.file [] mode)
    | none => return d.put place (.file [] fileMode)
  | .append path bytes => do
    let place ← d.locate path
    match d.node? place with
    | some (.file before mode) => return d.put place (.file (before ++ bytes) mode)
    | some (.directory _) => throw .isDirectory
    | none => throw .notFound
  | .sync _ => return d
  | .rename path target => do
    let source ← d.locate path
    let (above, last) ← d.locateLast target
    if Path.isFiller last ∨ last = ['.', '.'] then throw .busy
    match d.node? source with
    | none => throw .notFound
    | some node =>
      let place ← d.follow above [last]
      if target.endsInSlash then throw .notDirectory
      match d.node? place with
      | some (.directory _) => throw .isDirectory
      | _ => return (d.erase source).put place node
  | .remove path => do
    let place ← d.locate path
    match d.node? place with
    | some (.file ..) => return d.erase place
    | some (.directory _) => throw .isDirectory
    | none => throw .notFound

end Disk

end ReleaseCatalog
