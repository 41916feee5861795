import ReleaseCatalog.Server
import ReleaseCatalog.Verify

/-!
# Describing tarballs

An entry for the catalog can be made from a tarball itself, whether it lies on
the disk or is published at a URL.

* `describeFile`: name, size and checksum come from the file; what else a draft
  of the entry does not say comes from the name of the file or from the host;
* `describeUrl`: all but size and checksum comes from the name at the end of the
  URL, and a server is asked only if the name tells everything.
-/

namespace ReleaseCatalog

open FileName

/-- A text, or what stands in for it if it is empty. -/
def orElse (s fallback : String) : String := if s = "" then fallback else s

/-- A property that a name was asked for, or the failure to find it. -/
def foundIn (name : String) (found : Except Property α) : Except Error α :=
  found.mapError (.unidentified · name)

/-- The size of a file of so many bytes, as far as the catalog can hold it. -/
def fileSize (length : Nat) : Int64 := Int64.ofNat (min length Int64.maxValue.toNatClampNeg)

/-- A draft of an entry with the flavor and the version that the name of its
file tells, where the draft has none. -/
def Tarball.identified (draft : Tarball) (name : String) : Except Error Tarball := do
  let flavor ←
    if draft.flavor = "" then foundIn name (orMissing .flavor (flavor? name))
    else pure draft.flavor
  let version ←
    if draft.version = "" then foundIn name (orMissing .version (version? name))
    else pure draft.version
  return { draft with
    flavor, version, shortVersion := orElse draft.shortVersion (Version.shortText version) }

/-- A draft of an entry with everything else that it does not say and that needs
no reading. -/
def Tarball.completed (draft : Tarball) (name : String) (host : Host) : Tarball :=
  { draft with
    name
    os := orElse draft.os host.os.name
    arch := orElse draft.arch ((arch? name).getD host.arch).name
    minimal := draft.minimal || isMinimal name
    dateAdded := orElse draft.dateAdded host.now.stamp }

/-- The entry for a file, after a draft of it. -/
def describeFile (host : Host) (path : Path) (draft : Tarball) : Operation Machine Tarball := do
  match path.fileName? with
  | none => Operation.fail (.notAFileName path)
  | some name =>
    let digest ← fileDigest .sha512 path
    let size := fileSize (← Operation.see Disk.read path).length
    let identified ← Operation.ofExcept (draft.identified name)
    Operation.log (.described name size.toInt)
    return { identified.completed name host with
      checksum := (Checksum.mk .sha512 digest).text
      size }

/-- The entry for a published tarball. -/
def describeUrl (host : Host) (url : String) : Operation Server Tarball := do
  let name := baseName url
  let details ← Operation.ofExcept (foundIn name (Details.ofName name))
  Operation.log (.identified name details)
  let size ← Server.askSize url
  Operation.log (.downloading url)
  let digest ← Server.askDigest .md5 url
  return {
    name, url, size
    checksum := (Checksum.mk .md5 digest).text
    os := details.os.name
    arch := details.arch.name
    flavor := details.flavor
    minimal := details.minimal
    shortVersion := details.shortVersion
    version := details.version
    dateAdded := host.now.stamp }

end ReleaseCatalog
