import ReleaseCatalog.Disk.Machine
import ReleaseCatalog.Document
import ReleaseCatalog.Integrity

/-!
# The file of a catalog

A catalog is kept in one file. To write it, the whole document goes to a
temporary file beside the old one and then takes its name, so that the file
holds a complete document at every point.

* `load`: the catalog in the file, an empty one if there is no file;
* `openCatalog`: the same for a catalog to work with, which has to be valid;
* `persist`: writes a catalog in its standard order, if it is one that
  `openCatalog` accepts.
-/

namespace ReleaseCatalog

/-- The file that keeps a catalog. -/
structure CatalogFile where
  path : Path

namespace CatalogFile

/-- The permission bits of a directory made for the catalog: it is for its owner
alone. -/
def directoryMode : Nat := 0o700

def isThere (f : CatalogFile) : Operation Machine Bool := Operation.look (·.disk.exists? f.path)

/-- The catalog in the file, an empty one if there is no file. -/
def load (f : CatalogFile) : Operation Machine Catalog := do
  if ← f.isThere then
    match Catalog.ofBytes? (← Operation.see Disk.read f.path) with
    | none => Operation.fail (.corruptDocument f.path)
    | some catalog =>
      Operation.log (.documentLoaded catalog.tarballs.length f.path)
      return catalog
  else
    Operation.log (.noDocument f.path)
    return {}

/-- The number of tarballs in the file, zero if it cannot be read. -/
def count (f : CatalogFile) : Operation Machine Nat := do
  match ← f.load.attempt with
  | .ok catalog => return catalog.tarballs.length
  | .error _ => return 0

/-- The catalog to work with: the one in the file if it is valid, a fresh one if
there is no file. -/
def openCatalog (f : CatalogFile) : Operation Machine Catalog := do
  if ← f.isThere then
    let catalog ← f.load
    Operation.ofExcept catalog.validate
    Operation.log (.catalogLoaded catalog.tarballs.length)
    return catalog
  else
    Operation.log .startedEmpty
    return .fresh

/-- Makes the directory of the file if it is missing. -/
def prepareDirectory (f : CatalogFile) : Operation Machine Unit := do
  match f.path.parent?.filter (·.text ≠ "") with
  | none => return ()
  | some directory =>
    if ← Operation.look (·.disk.isDirectory directory) then return ()
    Operation.log (.directoryMissing directory)
    Operation.onDisk directory (makeDirectories directoryMode directory)

/-- The temporary file beside the file, one for each process. -/
def temporary (f : CatalogFile) (host : Host) : Path :=
  f.path.withEnding (String.join ["json.", toString host.processId, ".tmp"])

/-- Writes the document to the temporary file and gives that the name of the
file. If either fails, the temporary file is removed. -/
def replace (f : CatalogFile) (host : Host) (document : List UInt8) : Operation Machine Unit :=
  let temporary := f.temporary host
  Operation.orElseUndo
    (do
      Operation.onDisk temporary do
        perform (.create temporary)
        perform (.append temporary document)
        perform (.sync temporary)
      Operation.onDisk f.path (perform (.rename temporary f.path)))
    (Operation.onDisk temporary (perform (.remove temporary)))

/-- Writes the catalog in its standard order. Nothing is touched unless it is
valid. -/
def persist (f : CatalogFile) (host : Host) (c : Catalog) : Operation Machine Unit := do
  Operation.ofExcept (checkUnique c.tarballs)
  Operation.ofExcept c.validate
  f.prepareDirectory
  f.replace host (c.inOrder.bytes)
  Operation.log (.documentWritten c.tarballs.length f.path)

end CatalogFile

end ReleaseCatalog
