/-
# Texts in byte strings

A string that is passed over is read for its form only. Bytes in it that are no UTF-8 are passed
over with it, as are escapes that denote no character. Where the string counts, or where no
string is, they depart from the grammar.
-/

import Federation.Text.Lossy

namespace Federation.Json

open Federation.Text

/-- Spells out characters among which some are none. What is none is put down as two halves of
the second kind: whatever stands around them, they have the form of escapes and denote no
character. Behind a backslash it is put down as a character that is no escape. -/
def spellOut : (escaped : Bool) → List (Option Char) → List Char
  | _, [] => []
  | escaped, some c :: rest => c :: spellOut (c == '\\' && !escaped) rest
  | false, none :: rest => "\\udc00\\udc00".toList ++ spellOut false rest
  | true, none :: rest => '\x00' :: spellOut false rest

/-- The text as which a byte string is read. -/
def textOf (bytes : List UInt8) : String :=
  match ofUtf8? bytes with
  | some text => text
  | none => String.ofList (spellOut false (readLenient none bytes))

theorem textOf_utf8 (s : String) : textOf (utf8 s) = s := by
  rw [textOf, ofUtf8?_utf8]

end Federation.Json
