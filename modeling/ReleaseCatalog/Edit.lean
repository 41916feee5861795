import ReleaseCatalog.Integrity
import ReleaseCatalog.Report

/-!
# Changing and searching a catalog

Tarballs are added at the end, removed by name, and taken over from another catalog.
An operation that fails leaves the catalog as it was, since it gives no new one.

* `Catalog.edit`: one change; `Catalog.edited`: a list of changes, one after another.
-/

namespace ReleaseCatalog

/-- The tarballs of a list whose names are not among those seen, each name once. -/
def newcomers (names : List String) : List Tarball → List Tarball
  | [] => []
  | t :: rest =>
    if t.name ∈ names then newcomers names rest else t :: newcomers (t.name :: names) rest

/-- The list without the tarballs of a name, of which there has to be one. -/
def removeNamed (tarballs : List Tarball) (name : String) : Except Error (List Tarball) :=
  if tarballs.any (·.name = name) then .ok (tarballs.filter (·.name ≠ name))
  else .error (.noSuchName name)

/-- A change of a catalog. -/
inductive Edit where
  | add (t : Tarball)
  | remove (name : String)
  | merge (other : Catalog)

namespace Catalog

/-- The catalog with a tarball at its end. Name and build have to be new. -/
def add (c : Catalog) (t : Tarball) : Report Catalog := do
  let tarballs := c.tarballs ++ [t]
  Report.ofExcept (checkUnique tarballs)
  Report.log (.added t.name)
  return { c with tarballs }

/-- The catalog without the tarball of a name. -/
def remove (c : Catalog) (name : String) : Report Catalog := do
  let tarballs ← Report.ofExcept (removeNamed c.tarballs name)
  Report.log (.removed name)
  return { c with tarballs }

/-- The catalog with the tarballs of another one whose names it does not have,
of this tool's version. Neither catalog may be empty. -/
def merge (c other : Catalog) : Report Catalog := do
  if c.tarballs = [] then throw .emptyOrigin
  if other.tarballs = [] then throw .emptyAddition
  let added := newcomers (c.tarballs.map (·.name)) other.tarballs
  Report.log (.merged added.length)
  return { c with schemaVersion := toolVersion, tarballs := c.tarballs ++ added }

/-- The catalog merged with another one, and how many tarballs were new to it. -/
def mergeCounting (c other : Catalog) : Report (Catalog × Nat) := do
  let merged ← c.merge other
  return (merged, merged.tarballs.length - c.tarballs.length)

/-- The catalog after a change. -/
def edit (c : Catalog) : Edit → Report Catalog
  | .add t => c.add t
  | .remove name => c.remove name
  | .merge other => c.merge other

/-- The catalog after a list of changes, of which those that fail are left out. -/
def edited (c : Catalog) (edits : List Edit) : Catalog :=
  edits.foldl (fun c e => (c.edit e).result.toOption.getD c) c

def findName (c : Catalog) (name : String) : Except Error Tarball :=
  match c.tarballs.find? (·.name = name) with
  | some t => .ok t
  | none => .error (.noSuchName name)

def findUrl (c : Catalog) (url : String) : Except Error Tarball :=
  match c.tarballs.find? (·.url = url) with
  | some t => .ok t
  | none => .error (.noSuchUrl url)

end Catalog

end ReleaseCatalog
