import ReleaseCatalog.Platform
import ReleaseCatalog.Text.Decimal
import ReleaseCatalog.Text.Search
import ReleaseCatalog.Version

/-!
# What a file name says

The vendors put flavor, version, platform and build into the name of a tarball,
for instance `mysql-8.0.37-linux-glibc2.17-x86_64-minimal.tar.xz`. This module
recognizes each of them anywhere in the name, the flavor at its front.

* `baseName` is the file name at the end of a path or URL;
* `version?` is the leftmost part of a name that has the shape of a release;
* `Details.ofName` puts the parts together, or tells which one it does not find.
-/

namespace ReleaseCatalog.FileName

open Text

/-- A property of a tarball that its name is asked for. -/
inductive Property where
  | flavor
  | os
  | arch
  | version
deriving DecidableEq

/-- What is left of a text behind its last slash, slashes at the end not counted. -/
def baseName (s : String) : String :=
  let trimmed := (s.toList.reverse.dropWhile (· = '/')).reverse
  String.ofList (((pieces '/' trimmed).getLast?).getD [])

/-- How the names of each flavor start. -/
def flavorStarts : List (String × String) :=
  [("mysql-5.7", "mysql"), ("mysql-8", "mysql"), ("mysql-9", "mysql"),
   ("mysql-cluster-8", "ndb"), ("mysql-cluster-9", "ndb"), ("mysql-shell-", "shell"),
   ("Percona-Server-", "percona")]

def flavor? (name : String) : Option String :=
  (flavorStarts.find? fun start => (after? start.1.toList name.toList).isSome).map (·.2)

def os? (name : String) : Option OperatingSystem :=
  if contains "Linux".toList name.toList || contains "linux".toList name.toList then some .linux
  else if contains "macos".toList name.toList then some .darwin
  else none

/-- The spellings of architectures that names have. -/
def archSpellings : List String := ["aarch64", "amd64", "arm64", "x86-64", "x86_64"]

/-- The architecture of a name, by the leftmost spelling in it. -/
def arch? (name : String) : Option Architecture :=
  (leftmost (fun s => archSpellings.find? fun a => (after? a.toList s).isSome) name.toList).map
    Architecture.ofText

def isMinimal (name : String) : Bool := contains "minimal".toList name.toList

/-- A part of the shape of a release number. -/
inductive ShapePart where
  | exactly (s : String)
  | oneOf (choices : List Char)
  /-- At least one decimal digit, and all that follow it. -/
  | number

/-- The shapes of release numbers: `5.7.x`, `8.0.x` to `8.4.x`, `9.x.y` and
`10.x.y`. -/
def releaseShapes : List (List ShapePart) :=
  [[.exactly "5.7.", .number],
   [.exactly "8.", .oneOf ['0', '1', '2', '3', '4'], .exactly ".", .number],
   [.exactly "9.", .number, .exactly ".", .number],
   [.exactly "10.", .number, .exactly ".", .number]]

/-- What a part of a shape takes from the front of a text, and the text after it. -/
def ShapePart.take? (s : List Char) : ShapePart → Option (List Char × List Char)
  | exactly p => (after? p.toList s).map (p.toList, ·)
  | oneOf choices =>
    match s with
    | c :: rest => if choices.contains c then some ([c], rest) else none
    | [] => none
  | number =>
    if s.takeWhile isDecimal = [] then none
    else some (s.takeWhile isDecimal, s.dropWhile isDecimal)

/-- What a shape takes from the front of a text. -/
def takeShape? : List ShapePart → List Char → Option (List Char)
  | [], _ => some []
  | part :: parts, s =>
    match part.take? s with
    | some (taken, rest) => (takeShape? parts rest).map (taken ++ ·)
    | none => none

/-- The release number at the front of a text. -/
def release? (s : List Char) : Option (List Char) := releaseShapes.findSome? (takeShape? · s)

/-- The version of a name: its leftmost release number. -/
def version? (name : String) : Option String :=
  (leftmost release? name.toList).map String.ofList

/-- All that a name says. -/
structure Details where
  flavor : String
  os : OperatingSystem
  arch : Architecture
  version : String
  shortVersion : String
  minimal : Bool
deriving DecidableEq

/-- A property that was found, or which one was not. -/
def orMissing (property : Property) : Option α → Except Property α
  | some a => .ok a
  | none => .error property

/-- What a name says, or the first property that it does not tell. -/
def Details.ofName (name : String) : Except Property Details := do
  let flavor ← orMissing .flavor (flavor? name)
  let os ← orMissing .os (os? name)
  let version ← orMissing .version (version? name)
  let arch ← orMissing .arch (arch? name)
  return ⟨flavor, os, arch, version, Version.shortText version, isMinimal name⟩

end ReleaseCatalog.FileName
