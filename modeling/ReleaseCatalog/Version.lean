import ReleaseCatalog.Text.Blank
import ReleaseCatalog.Text.Decimal
import ReleaseCatalog.Text.Split

/-!
# Versions

A version is a list of numbers, read from the parts of a text between its dots.
Reading never fails: a part that is not a number, or one that does not fit 64
bits, counts as zero.

* `precedes` is the strict order by the first number that differs. Of two
  versions where one continues the other (`8.0` and `8.0.1`), neither precedes;
* `agrees` compares place by place, so that `8.0` and `8.0.0` are two versions;
* `compare` is the total order that extends it and puts the shorter one first;
* `shortText` cuts the last number off a version's text: `8.0.37` belongs to `8.0`.
-/

namespace ReleaseCatalog

open Text

/-- A version: its numbers from the most significant one on. -/
structure Version where
  segments : List UInt64
deriving DecidableEq

namespace Version

/-- The value of a run of digits with an optional plus sign in front, if it fits
64 bits. -/
def word? (s : List Char) : Option UInt64 :=
  let s := match s with
    | '+' :: rest => rest
    | _ => s
  if s ≠ [] ∧ s.all isDigit ∧ natOfDigits s < UInt64.size then
    some (UInt64.ofNat (natOfDigits s))
  else none

/-- The number that a part of a version's text stands for. -/
def segment (s : List Char) : UInt64 := (word? (trim s)).getD 0

/-- The version that a text stands for. -/
def ofText (s : String) : Version := ⟨(pieces '.' s.toList).map segment⟩

/-- A version's numbers with dots between. -/
def text (v : Version) : String :=
  String.ofList (joined '.' (v.segments.map fun n => digits n.toNat))

/-- A list of numbers is smaller than another at the first place where they differ. -/
def segmentsPrecede : List UInt64 → List UInt64 → Bool
  | a :: as, b :: bs => if a = b then segmentsPrecede as bs else a < b
  | _, _ => false

/-- The version is older by the first number that differs. -/
def precedes (v w : Version) : Bool := segmentsPrecede v.segments w.segments

/-- The versions have as many numbers, and the same one in every place. -/
def agrees (v w : Version) : Bool :=
  v.segments.length == w.segments.length && (v.segments.zip w.segments).all fun (a, b) => a == b

/-- The order of versions, the shorter one first where neither precedes. -/
def compare (v w : Version) : Ordering :=
  if v.precedes w then .lt
  else if w.precedes v then .gt
  else Ord.compare v.segments.length w.segments.length

/-- The first three numbers, if there are as many. -/
def triple? (v : Version) : Option (UInt64 × UInt64 × UInt64) :=
  match v.segments with
  | major :: minor :: patch :: _ => some (major, minor, patch)
  | _ => none

/-- A version's text without its last part, the whole text if it has only one part. -/
def shortText (s : String) : String :=
  let parts := pieces '.' s.toList
  if parts.length ≤ 1 then s else String.ofList (joined '.' parts.dropLast)

end Version

end ReleaseCatalog
