import ReleaseCatalog.Dict
import ReleaseCatalog.Error
import ReleaseCatalog.Text.Blank
import ReleaseCatalog.Text.Search

/-!
# Templates

A template is a text with fields, written as a name behind a dot between double
braces, where blanks may stand inside the braces. Filling a template puts a
value in place of each field.

* `parts`: a template as characters and fields;
* `fields`: the names of its fields, in ascending order and each once;
* `fill`: the text with every field replaced, or the names of the fields that
  have no value.
-/

namespace ReleaseCatalog.Template

open Text

inductive Part where
  | char (c : Char)
  | field (name : String)
deriving DecidableEq

/-- A character that the name of a field may start with. -/
def isNameStart (c : Char) : Bool := c.isAlpha || c = '_'

/-- A character that may stand in the name of a field. -/
def isNameChar (c : Char) : Bool := isNameStart c || isDigit c

/-- The name of the field that a text starts with, and the text after the field. -/
def field? (s : List Char) : Option (List Char × List Char) := do
  let s ← after? ['{', '{'] s
  let s ← after? ['.'] (trimStart s)
  let name := s.takeWhile isNameChar
  if (name.head?.map isNameStart).getD false then
    let rest ← after? ['}', '}'] (trimStart (s.dropWhile isNameChar))
    return (name, rest)
  else none

/-- The parts of a template, found in at most as many steps as the text has
characters. -/
def partsFrom (fuel : Nat) (s : List Char) : List Part :=
  match fuel, s with
  | 0, s => s.map .char
  | _, [] => []
  | fuel + 1, c :: rest =>
    match field? (c :: rest) with
    | some (name, rest) => .field (String.ofList name) :: partsFrom fuel rest
    | none => .char c :: partsFrom fuel rest

/-- The parts of a template, from left to right. -/
def parts (template : String) : List Part :=
  partsFrom template.toList.length template.toList

/-- The name of a part that is a field. -/
def Part.field? : Part → Option String
  | .field name => some name
  | .char _ => none

/-- The names of the fields, in ascending order and each once. -/
def fields (template : String) : List String :=
  (Dict.ofList ((parts template).filterMap fun p => p.field?.map (·, ()))).keys

/-- The characters that stand in place of a part. -/
def Part.filled (data : Dict String) : Part → List Char
  | .char c => [c]
  | .field name => ((data.get? name).getD "").toList

/-- The template with the values of its fields. The template's name is for the
message where a field has no value. -/
def fill (name template : String) (data : Dict String) : Except Error String :=
  let missing := (fields template).filter fun f => !data.contains f
  if missing = [] then .ok (String.ofList ((parts template).flatMap (·.filled data)))
  else .error (.missingFields name missing)

end ReleaseCatalog.Template
