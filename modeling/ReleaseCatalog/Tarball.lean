/-!
# Tarballs and catalogs

A tarball is one published build of a database server, described by the fields
that the catalog keeps. A catalog is the list of those, with the version of the
tool that wrote it. Within a catalog the name and the build, that is operating
system, architecture, flavor, version and minimal flag together, are meant to
tell tarballs apart.
-/

namespace ReleaseCatalog

/-- What the catalog knows of one published tarball. A text that is not known is
empty. -/
structure Tarball where
  /-- The file name. -/
  name : String := ""
  /-- Algorithm and digest with a colon between. -/
  checksum : String := ""
  os : String := ""
  arch : String := ""
  url : String := ""
  flavor : String := ""
  /-- A build without debug binaries. -/
  minimal : Bool := false
  /-- The size in bytes. -/
  size : Int64 := 0
  shortVersion : String := ""
  version : String := ""
  updatedBy : String := ""
  notes : String := ""
  dateAdded : String := ""
deriving DecidableEq

/-- The flavor whose tarballs are published without a checksum. -/
def checksumFreeFlavor : String := "tidb"

/-- The note on tarballs that are not published yet and whose name was guessed. -/
def guessedNote : String := "guessed"

/-- The version of the tool that new and merged catalogs carry. -/
def toolVersion : String := "0.5.1"

/-- What a tarball was built for and from. No two tarballs of a catalog share it. -/
structure Build where
  os : String
  arch : String
  flavor : String
  version : String
  minimal : Bool
deriving DecidableEq

/-- What the tarball was built for and from. -/
def Tarball.build (t : Tarball) : Build := ⟨t.os, t.arch, t.flavor, t.version, t.minimal⟩

/-- The tarball's name was guessed. -/
def Tarball.isGuessed (t : Tarball) : Bool := t.notes == guessedNote

/-- The known tarballs, and where the list comes from. -/
structure Catalog where
  /-- The version of the tool that wrote the catalog. -/
  schemaVersion : String := ""
  updatedOn : String := ""
  tarballs : List Tarball := []
deriving DecidableEq

/-- A catalog without tarballs, of this tool's version. -/
def Catalog.fresh : Catalog := { schemaVersion := toolVersion }

end ReleaseCatalog
