import ReleaseCatalog.Platform
import ReleaseCatalog.Tarball
import ReleaseCatalog.Text.Split
import ReleaseCatalog.Version

/-!
# Requests

A request says which tarball somebody wants: a version or a short version, a
flavor, and the platform to run it on. `Request.ofText` brings the words of a
request into the form that `Request.accepts` compares with the fields of a tarball.
-/

namespace ReleaseCatalog

open Text

/-- Which tarball somebody wants. -/
structure Request where
  /-- A version or a short version. -/
  version : String
  flavor : String
  os : OperatingSystem
  arch : Architecture
  /-- Only minimal builds will do. -/
  minimal : Bool := false
  /-- Of several tarballs the newest will do. -/
  newest : Bool := false
deriving DecidableEq

namespace Request

/-- The request of raw words: blanks around them and the case of all but the
version do not matter. -/
def ofText (version flavor os arch : String) : Request where
  version := trimmed version
  flavor := plainName flavor
  os := .ofText os
  arch := .ofText arch

/-- The short version that the request is about: a version of three parts or
more without its last part, anything shorter as it is. -/
def shortVersion (r : Request) : String :=
  if 2 ≤ r.version.toList.count '.' then Version.shortText r.version else r.version

/-- The tarball is one that the request asks for. A tarball without an
architecture runs on each. -/
def accepts (r : Request) (t : Tarball) : Bool :=
  (t.version == r.version || t.shortVersion == r.version)
    && lowered t.flavor == r.flavor
    && lowered t.os == r.os.name
    && (t.arch == "" || lowered t.arch == r.arch.name)
    && (!r.minimal || t.minimal)

/-- The tarballs of a list that the request asks for. -/
def select (r : Request) (tarballs : List Tarball) : List Tarball := tarballs.filter r.accepts

/-- The request that asks for every build of the same short version. -/
def family (r : Request) : Request := { r with version := r.shortVersion, minimal := false }

def text (r : Request) : String :=
  String.join ["version ", r.version, ", flavor ", r.flavor, ", OS ", r.os.name, ", arch ",
    r.arch.name]

end Request

end ReleaseCatalog
