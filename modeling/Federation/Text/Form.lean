/-
# Forms

The query of an address is a form: fields with a name and a value, separated by ampersands
and percent-encoded, with a plus sign for a space. Empty fields are passed over, and a field
without an equals sign has an empty value.
-/

import Federation.Text.Lossy
import Federation.Text.Percent

namespace Federation.Text.Form

/-- The text of a part of a field. -/
def decodePart (cs : List Char) : String :=
  ofUtf8Lossy (Percent.decodeBytes (cs.map fun c => if c = '+' then ' ' else c))

/-- The name and the value of a field. -/
def decodeField (cs : List Char) : String × String :=
  match cutFirst? (· == '=') cs with
  | some (name, value) => (decodePart name, decodePart value)
  | none => (decodePart cs, "")

/-- The fields of a query in order. -/
def decode (s : String) : List (String × String) :=
  ((splitChars '&' s.toList).filter fun cs => !cs.isEmpty).map decodeField

end Federation.Text.Form
