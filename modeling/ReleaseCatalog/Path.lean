import ReleaseCatalog.Text.Quoted
import ReleaseCatalog.Text.Split

/-!
# Paths

A path is a text; its parts stand between slashes. Empty parts and parts that are a
single dot say nothing, except for the dot that a relative path starts with.
Operations on paths keep the text in front of the part they change as it is written.
-/

namespace ReleaseCatalog

open Text

/-- A path of the file system, as it is written. -/
structure Path where
  text : String
deriving DecidableEq

namespace Path

/-- A part that says nothing. -/
def isFiller (part : List Char) : Bool := part = [] || part = ['.']

def isAbsolute (p : Path) : Bool := p.text.toList.head? = some '/'

/-- Parts without the ones at the end that say nothing. A relative path keeps a
dot that it starts with. -/
def withoutFillers (absolute : Bool) (parts : List (List Char)) : List (List Char) :=
  match (parts.reverse.dropWhile isFiller).reverse with
  | [] => if !absolute && parts.head? = some ['.'] then [['.']] else []
  | kept => kept

/-- The parts of the path, the root left out, up to the last one that says
something. -/
def parts (p : Path) : List (List Char) :=
  let all := pieces '/' p.text.toList
  withoutFillers p.isAbsolute (if p.isAbsolute then all.tail else all)

def ofParts (absolute : Bool) (parts : List (List Char)) : Path :=
  ⟨String.ofList ((if absolute then ['/'] else []) ++ joined '/' parts)⟩

/-- The path without its last part, none for the root and the empty path. -/
def parent? (p : Path) : Option Path :=
  if p.parts = [] then none
  else some (ofParts p.isAbsolute (withoutFillers p.isAbsolute p.parts.dropLast))

/-- The last part of the path, unless that leads upwards or there is none. -/
def fileName? (p : Path) : Option String :=
  match p.parts.getLast? with
  | some name => if name = ['.'] ∨ name = ['.', '.'] then none else some (String.ofList name)
  | none => none

/-- A file name without its last dot and what follows it. A dot that the name
starts with counts only if there is another one. -/
def stem (name : String) : String :=
  let parts := pieces '.' name.toList
  let front := joined '.' parts.dropLast
  if front = [] then name else String.ofList front

/-- The path ends in a name of two dots and an ending without a dot, and would
lead upwards without the ending. -/
def endsUpwards (p : Path) (name : String) : Bool :=
  name.toList.isSuffixOf p.text.toList && (pieces '.' name.toList).dropLast = [[], []]

/-- The path with the ending of its file name changed, or with an ending if it
had none. A path without a file name stays as it is. The old ending goes first,
and where that leaves a path that leads upwards, there is no name for the new
ending to go to. -/
def withEnding (p : Path) (ending : String) : Path :=
  match p.fileName? with
  | some name =>
    let named : List Char :=
      if p.endsUpwards name then ['.', '.'] else (stem name).toList ++ '.' :: ending.toList
    ofParts p.isAbsolute (p.parts.dropLast ++ [named])
  | none => p

/-- The path ends in a slash, so that it can only name a directory. -/
def endsInSlash (p : Path) : Bool := p.text.toList.getLast? = some '/'

/-- A relative path put behind another path. -/
def join (p : Path) (relative : String) : Path :=
  if relative.toList.head? = some '/' then ⟨relative⟩
  else if p.text = "" ∨ p.endsInSlash then ⟨p.text ++ relative⟩
  else ⟨p.text ++ "/" ++ relative⟩

/-- The path as messages quote it. -/
def quoted (p : Path) : String := Text.quoted p.text

end Path

end ReleaseCatalog
