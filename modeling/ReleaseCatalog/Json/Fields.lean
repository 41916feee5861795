/-!
# JSON values and the fields of records

A document is read for the texts, whole numbers, truth values, lists and records
in it. All else that JSON allows, such as a number with a fraction or a string
with half a surrogate pair, is well-formed but fits no field, and one value
stands for all of it.

A structure with named fields is written as a record, or as a list of the
fields' values in their order. In a record, members with other keys are passed
over and a field's key may stand only once; a list may stop early but not go on.
A field that is not given has its default.
-/

namespace ReleaseCatalog

/-- What a JSON text says. -/
inductive Json where
  /-- A value that no field can hold: `null`, a number that is not whole, a
  string that is not a text, or a record with such a string for a key. -/
  | unusable
  | bool (b : Bool)
  | number (n : Int)
  | text (s : String)
  | list (items : List Json)
  /-- Keys and values in the order of the text, with repetitions. -/
  | record (members : List (String × Json))
deriving Inhabited

namespace Json

/-- What is given for each field of a structure. -/
abbrev Given := String → Option Json

/-- The fields that a value gives to a structure with these keys. -/
def fields? (keys : List String) : Json → Option Given
  | record members =>
    if keys.all fun k => (members.map (·.1)).count k ≤ 1 then some fun k => members.lookup k
    else none
  | list items =>
    if items.length ≤ keys.length then some fun k => (keys.zip items).lookup k else none
  | _ => none

def asText? : Json → Option String
  | text s => some s
  | _ => none

def asBool? : Json → Option Bool
  | bool b => some b
  | _ => none

/-- A field that holds a whole number of 64 bits. -/
def asInt64? : Json → Option Int64
  | number n =>
    if Int64.minValue.toInt ≤ n ∧ n ≤ Int64.maxValue.toInt then some (Int64.ofInt n) else none
  | _ => none

def asList? (item? : Json → Option α) : Json → Option (List α)
  | list items => items.mapM item?
  | _ => none

/-- A field that holds a record with keys of any name, each of which counts
where it stands last. -/
def asMembers? (value? : Json → Option α) : Json → Option (List (String × α))
  | record members => members.mapM fun (k, v) => (value? v).map (k, ·)
  | _ => none

/-- The value of a field, its default if it is not given. -/
def Given.get? (given : Given) (key : String) (read? : Json → Option α) (default : α) : Option α :=
  match given key with
  | some v => read? v
  | none => some default

end Json

end ReleaseCatalog
