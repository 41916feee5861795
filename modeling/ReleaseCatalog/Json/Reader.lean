import ReleaseCatalog.Json.Token

/-!
# Reading JSON

A text is one value with blanks around it. The reader goes over the tokens once and
keeps a stack of the lists and records that are still open, so nesting has no limit.
-/

namespace ReleaseCatalog.Json

open Text.Utf8

/-- A list or record that is open and waits for a value, with what it holds so
far, last first. A key that is no text is `none`. -/
inductive Frame where
  | item (before : List Json)
  | member (before : List (Option String × Json)) (key : Option String)

/-- How far the reading has come, and with it what may come next. Each state
holds the lists and records that are open around the place, innermost first. -/
inductive State where
  /-- A value has to come. -/
  | value (outer : List Frame)
  /-- A list was opened: a value or its end comes. -/
  | firstItem (outer : List Frame)
  /-- A list has its items so far: a comma or its end comes. -/
  | afterItem (items : List Json) (outer : List Frame)
  /-- A record was opened: a key or its end comes. -/
  | firstKey (outer : List Frame)
  /-- A record goes on after a comma: a key comes. -/
  | key (members : List (Option String × Json)) (outer : List Frame)
  /-- A key was read: a colon comes. -/
  | colon (members : List (Option String × Json)) (key : Option String) (outer : List Frame)
  /-- A record has its members so far: a comma or its end comes. -/
  | afterMember (members : List (Option String × Json)) (outer : List Frame)
  /-- The value is complete: nothing may come. -/
  | complete (v : Json)

/-- The record with these members, last first. With a key that is no text it
fits no field. -/
def recordOf (members : List (Option String × Json)) : Json :=
  match members.reverse.mapM fun m => m.1.map (·, m.2) with
  | some members => record members
  | none => unusable

/-- The state after a complete value. -/
def State.close (v : Json) : List Frame → State
  | [] => .complete v
  | .item before :: outer => .afterItem (v :: before) outer
  | .member before k :: outer => .afterMember ((k, v) :: before) outer

/-- The state after a token that starts a value. -/
def State.start (outer : List Frame) : Token → Option State
  | .listOpen => some (.firstItem outer)
  | .recordOpen => some (.firstKey outer)
  | .string (some s) => some (.close (text s) outer)
  | .string none => some (.close unusable outer)
  | .plain v => some (.close v outer)
  | _ => none

/-- The state after the next token, none if the token may not come. -/
def State.step (state : State) (token : Token) : Option State :=
  match state, token with
  | .value outer, t => State.start outer t
  | .firstItem outer, .listClose => some (.close (list []) outer)
  | .firstItem outer, t => State.start (.item [] :: outer) t
  | .afterItem items outer, .comma => some (.value (.item items :: outer))
  | .afterItem items outer, .listClose => some (.close (list items.reverse) outer)
  | .firstKey outer, .recordClose => some (.close (record []) outer)
  | .firstKey outer, .string k => some (.colon [] k outer)
  | .key members outer, .string k => some (.colon members k outer)
  | .colon members k outer, .colon => some (.value (.member members k :: outer))
  | .afterMember members outer, .comma => some (.key members outer)
  | .afterMember members outer, .recordClose => some (.close (recordOf members) outer)
  | _, _ => none

/-- The value of a list of tokens. -/
def ofTokens? (tokens : List Token) : Option Json :=
  match tokens.foldlM State.step (.value []) with
  | some (.complete v) => some v
  | _ => none

/-- The value of a text that may have ill-formed bytes. -/
def ofSymbols? (s : List Symbol) : Option Json := Token.scan? s >>= ofTokens?

def ofBytes? (bytes : List UInt8) : Option Json := ofSymbols? (symbols bytes)

end ReleaseCatalog.Json
