import ReleaseCatalog.Date.Layout
import ReleaseCatalog.Tarball
import ReleaseCatalog.Version

/-!
# Orders of tarballs

A list of tarballs can be sorted by five keys. Sorting is stable: tarballs that
a key does not tell apart keep their order. `SortKey.allFields` is the order in
which a catalog is kept.

* `sorted`: a list in the order of a key;
* `Groups.enter`: what a list is grouped by, one tarball after the other;
* `tree`: a list in groups of one short version each, older short versions first.
-/

namespace ReleaseCatalog

/-- What a list of tarballs is sorted by. -/
inductive SortKey where
  /-- Flavor, then version, operating system, architecture and name. -/
  | allFields
  | date
  | name
  | shortVersion
  | version
deriving DecidableEq

namespace SortKey

def all : List SortKey := [allFields, date, name, shortVersion, version]

/-- The label by which a user names the key. -/
def label : SortKey → String
  | allFields => "full"
  | date => "date"
  | name => "name"
  | shortVersion => "short"
  | version => "version"

def ofLabel? (s : String) : Option SortKey := all.find? (·.label = s)

/-- The order of version texts by the versions they stand for. -/
def compareVersions (a b : String) : Ordering := (Version.ofText a).compare (.ofText b)

/-- The order of free-form dates: those that can be read come first, in the
order of time, and the others follow in the order of their texts. -/
def compareDates (a b : String) : Ordering :=
  match Timestamp.ofText? a, Timestamp.ofText? b with
  | some s, some t => s.compare t
  | some _, none => .lt
  | none, some _ => .gt
  | none, none => Ord.compare a b

/-- The order of tarballs by a key. -/
def compare (key : SortKey) (a b : Tarball) : Ordering :=
  match key with
  | allFields =>
    (Ord.compare a.flavor b.flavor).then <|
      (compareVersions a.version b.version).then <|
        (Ord.compare a.os b.os).then <|
          (Ord.compare a.arch b.arch).then <| Ord.compare a.name b.name
  | date => compareDates a.dateAdded b.dateAdded
  | name => Ord.compare a.name b.name
  | shortVersion => compareVersions a.shortVersion b.shortVersion
  | version => compareVersions a.version b.version

end SortKey

/-- The tarballs in the order of a key. -/
def sorted (key : SortKey) (tarballs : List Tarball) : List Tarball :=
  tarballs.mergeSort fun a b => (key.compare a b).isLE

/-- Lists of tarballs by keys, the keys in the order in which they came up. -/
structure Groups where
  entries : List (String × List Tarball)
  distinct : (entries.map (·.1)).Nodup

namespace Groups

def empty : Groups := ⟨[], .nil⟩

def keys (g : Groups) : List String := g.entries.map (·.1)

/-- The groups with an empty one for a key behind them, unless the key has come up. -/
def opened (g : Groups) (k : String) : Groups :=
  if h : k ∈ g.keys then g
  else {
    entries := g.entries ++ [(k, [])]
    distinct := by
      rw [List.map_append, List.nodup_append]
      refine ⟨g.distinct, List.pairwise_singleton _ k, fun x hx y hy hxy => h ?_⟩
      obtain rfl := List.mem_singleton.1 hy
      exact hxy ▸ hx }

/-- An entry with one more tarball at its end, if it is the one of a key. -/
def lengthened (k : String) (t : Tarball) (e : String × List Tarball) : String × List Tarball :=
  (e.1, if e.1 = k then e.2 ++ [t] else e.2)

/-- The groups with a tarball at the end of the group of its short version. -/
def enter (g : Groups) (t : Tarball) : Groups where
  entries := (g.opened t.shortVersion).entries.map (lengthened t.shortVersion t)
  distinct := by
    rw [List.map_map]
    exact (g.opened t.shortVersion).distinct

end Groups

/-- The tarballs in groups of one short version each, in the order of the short
versions. -/
def tree (tarballs : List Tarball) : List (String × List Tarball) :=
  ((sorted .shortVersion tarballs).foldl Groups.enter .empty).entries

/-- The catalog with its tarballs in the order in which it is kept. -/
def Catalog.inOrder (c : Catalog) : Catalog := { c with tarballs := sorted .allFields c.tarballs }

end ReleaseCatalog
