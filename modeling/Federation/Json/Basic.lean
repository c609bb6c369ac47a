/-
# JSON values and outlines

A *value* is what a text means once it has been accepted as a whole. An *outline* is what
can be told of any text, read from the left: it stops at the first place where the text
leaves the grammar and keeps strings and numbers that have a legal form without a meaning.
Readers of particular shapes walk outlines in the order of the text, so that the first
fault of either kind, in the grammar or in the shape, is the one they report.
-/

import Federation.Decimal.Shortest

namespace Federation.Json

/-- A number: a whole one that fits into 64 bits, or a double given by its bits. -/
inductive Number where
  /-- A whole number from zero to the largest unsigned 64-bit number. -/
  | natural (n : Nat)
  /-- The negative whole number `-n`, at least the smallest signed 64-bit number. -/
  | negative (n : Nat)
  | double (bits : UInt64)
deriving DecidableEq, Repr, Inhabited

/-- A JSON value. The members of an object keep their order and may repeat a name. -/
inductive Value where
  | null
  | bool (b : Bool)
  | number (n : Number)
  | string (s : String)
  | array (items : List Value)
  | object (members : List (String × Value))
deriving Inhabited, Repr

/-- What a text outlines. -/
inductive Outline where
  /-- No value can be read here. -/
  | broken
  | null
  | bool (b : Bool)
  /-- A number; `none` if it is beyond the range of doubles. -/
  | number (n : Option Number)
  /-- A string; `none` if an escape in it denotes no character. -/
  | string (s : Option String)
  /-- An array; `closed` tells that its end was reached. -/
  | array (items : List Outline) (closed : Bool)
  /-- An object; `closed` tells that its end was reached. -/
  | object (members : List (Option String × Outline)) (closed : Bool)
deriving Inhabited, Repr

mutual

/-- The outline of a value. -/
def Value.outline : Value → Outline
  | .null => .null
  | .bool b => .bool b
  | .number n => .number (some n)
  | .string s => .string (some s)
  | .array items => .array (outlines items) true
  | .object members => .object (memberOutlines members) true

/-- The outlines of the items of an array. -/
def Value.outlines : List Value → List Outline
  | [] => []
  | v :: rest => v.outline :: Value.outlines rest

/-- The outlines of the members of an object. -/
def Value.memberOutlines : List (String × Value) → List (Option String × Outline)
  | [] => []
  | (name, v) :: rest => (some name, v.outline) :: Value.memberOutlines rest

end

/-- Puts a member into members sorted by name, replacing one of the same name. -/
def putMember (name : String) (v : Value) : List (String × Value) → List (String × Value)
  | [] => [(name, v)]
  | (other, w) :: rest =>
    if name < other then (name, v) :: (other, w) :: rest
    else if name = other then (name, v) :: rest
    else (other, w) :: putMember name v rest

mutual

/-- The value of an outline without a fault whose containers nest at most `depth` deep. -/
def Outline.value? (depth : Nat) : Outline → Option Value
  | .broken => none
  | .null => some .null
  | .bool b => some (.bool b)
  | .number n => n.map .number
  | .string s => s.map .string
  | .array items closed =>
    match depth with
    | 0 => none
    | depth + 1 => if closed then (values? depth items).map .array else none
  | .object members closed =>
    match depth with
    | 0 => none
    | depth + 1 => if closed then (memberValues? depth members).map .object else none

/-- The values of the items of an array. -/
def Outline.values? (depth : Nat) : List Outline → Option (List Value)
  | [] => some []
  | o :: rest =>
    match o.value? depth with
    | none => none
    | some v => (Outline.values? depth rest).map (v :: ·)

/-- The values of the members of an object. -/
def Outline.memberValues? (depth : Nat) :
    List (Option String × Outline) → Option (List (String × Value))
  | [] => some []
  | (none, _) :: _ => none
  | (some name, o) :: rest =>
    match o.value? depth with
    | none => none
    | some v => (Outline.memberValues? depth rest).map ((name, v) :: ·)

end

mutual

/-- A value whose objects list each name once, sorted by name, with the value of its last
occurrence. -/
def Value.merged : Value → Value
  | .array items => .array (mergedItems items)
  | .object members => .object (mergedMembers [] members)
  | v => v

/-- Merges the items of an array. -/
def Value.mergedItems : List Value → List Value
  | [] => []
  | v :: rest => v.merged :: Value.mergedItems rest

/-- Merges members into those merged before. -/
def Value.mergedMembers (done : List (String × Value)) :
    List (String × Value) → List (String × Value)
  | [] => done
  | (name, v) :: rest => Value.mergedMembers (putMember name v.merged done) rest

end

/-- The deepest nesting of containers that is read. -/
def depthLimit : Nat := 127

/-- The value of the last member of a name. -/
def Value.member? (name : String) : Value → Option Value
  | .object members => (members.reverse.find? (·.1 == name)).map (·.2)
  | _ => none

end Federation.Json
