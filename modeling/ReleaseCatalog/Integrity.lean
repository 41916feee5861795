import ReleaseCatalog.Error

/-!
# What makes a catalog valid

Two rules hold for every list of tarballs: no two share a name, and no two share
a build. `checkUnique` stops at the first repetition. A catalog to be kept has
to satisfy more: every entry needs certain fields. `Catalog.validate` collects
everything that is wrong.
-/

namespace ReleaseCatalog

/-- Looks for the first tarball whose name or build is among those already seen. -/
def checkUniqueFrom (names : List String) (builds : List Build) :
    List Tarball → Except Error Unit
  | [] => .ok ()
  | t :: rest =>
    if t.name ∈ names then .error (.repeatedName t.name)
    else if t.build ∈ builds then .error (.repeatedBuild t.build)
    else checkUniqueFrom (t.name :: names) (t.build :: builds) rest

/-- Fails at the first name or build that is listed a second time. -/
def checkUnique (tarballs : List Tarball) : Except Error Unit := checkUniqueFrom [] [] tarballs

namespace Tarball

/-- The name under which issues of the tarball are listed. -/
def issueName (t : Tarball) : String := if t.name = "" then "No Name" else t.name

/-- The tarball needs a checksum and has none. -/
def lacksChecksum (t : Tarball) : Bool := t.checksum = "" && t.flavor ≠ checksumFreeFlavor

/-- The fields that a tarball needs and does not have, in a fixed order. -/
def issues (t : Tarball) : List Issue :=
  ([(t.name = "", "name is missing"), (t.url = "", "url is missing"),
    (t.shortVersion = "", "short version is missing"), (t.version = "", "version is missing"),
    (t.os = "", "operating system is missing"),
    (t.lacksChecksum, "checksum is missing")] : List (Bool × String)).filterMap
      fun (missing, issue) => if missing then some ⟨t.issueName, issue⟩ else none

/-- The issue of a tarball whose build was listed before. -/
def repeatedBuildIssue (t : Tarball) : Issue :=
  ⟨t.name, String.join ["OS ", t.os, "-", t.arch, ", flavor ", t.flavor, ", version ", t.version,
    ", minimal ", truthText t.minimal, " listed more than once"]⟩

end Tarball

/-- The issues of a list of tarballs behind those already seen. A name listed a
second time is a failure of its own. -/
def issuesFrom (names : List String) (builds : List Build) :
    List Tarball → Except Error (List Issue)
  | [] => .ok []
  | t :: rest => do
    if t.name ∈ names then throw (.repeatedName t.name)
    let later ← issuesFrom (t.name :: names) (t.build :: builds) rest
    return t.issues ++ (if t.build ∈ builds then [t.repeatedBuildIssue] else []) ++ later

namespace Catalog

/-- The issue of a catalog that does not say which version of the tool wrote it. -/
def versionIssue : Issue := ⟨"collection version", "collection version not set"⟩

/-- All that is wrong with a catalog. -/
def issues (c : Catalog) : Except Error (List Issue) := do
  let entries ← issuesFrom [] [] c.tarballs
  return (if c.schemaVersion = "" then [versionIssue] else []) ++ entries

/-- Fails unless the catalog may be kept. -/
def validate (c : Catalog) : Except Error Unit := do
  let found ← c.issues
  if found = [] then return () else throw (.invalidEntries found)

end Catalog

end ReleaseCatalog
