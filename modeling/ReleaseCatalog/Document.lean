import ReleaseCatalog.Json.Fields
import ReleaseCatalog.Json.Printer
import ReleaseCatalog.Json.Reader
import ReleaseCatalog.Tarball

/-!
# The catalog as a document

A catalog is kept as a JSON record, and each of its tarballs as a record in it.
Some fields are left out when they are empty; reading gives every field that is
left out its empty value.

* `Tarball.toJson` and `Catalog.toJson`: the records;
* `Tarball.ofJson?` and `Catalog.ofJson?`: what a record says, none if a field
  has a value of another kind;
* `Catalog.bytes` and `Catalog.ofBytes?`: the document as a file holds it.
-/

namespace ReleaseCatalog

open Json

/-- The member of a text that is left out when it is empty. -/
def optionalText (key value : String) : List (String × Json) :=
  if value = "" then [] else [(key, .text value)]

namespace Tarball

def keys : List String :=
  ["name", "checksum", "OS", "arch", "url", "flavor", "minimal", "size", "short_version",
   "version", "updated_by", "notes", "date_added"]

def members (t : Tarball) : List (String × Json) :=
  [("name", .text t.name)] ++ optionalText "checksum" t.checksum
    ++ [("OS", .text t.os), ("arch", .text t.arch), ("url", .text t.url),
      ("flavor", .text t.flavor), ("minimal", .bool t.minimal), ("size", .number t.size.toInt),
      ("short_version", .text t.shortVersion), ("version", .text t.version)]
    ++ optionalText "updated_by" t.updatedBy ++ optionalText "notes" t.notes
    ++ optionalText "date_added" t.dateAdded

def toJson (t : Tarball) : Json := .record t.members

def ofJson? (v : Json) : Option Tarball := do
  let given ← fields? keys v
  return {
    name := ← given.get? "name" asText? ""
    checksum := ← given.get? "checksum" asText? ""
    os := ← given.get? "OS" asText? ""
    arch := ← given.get? "arch" asText? ""
    url := ← given.get? "url" asText? ""
    flavor := ← given.get? "flavor" asText? ""
    minimal := ← given.get? "minimal" asBool? false
    size := ← given.get? "size" asInt64? 0
    shortVersion := ← given.get? "short_version" asText? ""
    version := ← given.get? "version" asText? ""
    updatedBy := ← given.get? "updated_by" asText? ""
    notes := ← given.get? "notes" asText? ""
    dateAdded := ← given.get? "date_added" asText? "" }

end Tarball

namespace Catalog

def keys : List String := ["DbdeployerVersion", "updated_on", "Tarballs"]

def toJson (c : Catalog) : Json :=
  .record <| [("DbdeployerVersion", .text c.schemaVersion)]
    ++ optionalText "updated_on" c.updatedOn
    ++ [("Tarballs", .list (c.tarballs.map Tarball.toJson))]

def ofJson? (v : Json) : Option Catalog := do
  let given ← fields? keys v
  return {
    schemaVersion := ← given.get? "DbdeployerVersion" asText? ""
    updatedOn := ← given.get? "updated_on" asText? ""
    tarballs := ← given.get? "Tarballs" (asList? Tarball.ofJson?) [] }

def bytes (c : Catalog) : List UInt8 := Text.Utf8.bytes c.toJson.pretty

def ofBytes? (document : List UInt8) : Option Catalog := Json.ofBytes? document >>= ofJson?

end Catalog

end ReleaseCatalog
