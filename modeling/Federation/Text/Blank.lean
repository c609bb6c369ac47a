/-
# White space and letter case

Settings, criteria and keys are compared after surrounding white space has been
removed. White space is the Unicode property White_Space, so a value padded with
a no-break or an ideographic space is as blank as one padded with tabs. Case is
folded for the ASCII letters only.
-/

namespace Federation.Text

/-- Characters with the Unicode property White_Space. -/
def isBlank (c : Char) : Bool :=
  (0x09 ≤ c.val && c.val ≤ 0x0D) || c.val == 0x20 || c.val == 0x85 || c.val == 0xA0
    || c.val == 0x1680 || (0x2000 ≤ c.val && c.val ≤ 0x200A) || c.val == 0x2028
    || c.val == 0x2029 || c.val == 0x202F || c.val == 0x205F || c.val == 0x3000

/-- Drops leading white space. -/
def trimStartChars (cs : List Char) : List Char :=
  cs.dropWhile isBlank

/-- Drops the characters at the end of a list that satisfy a test. -/
def dropEndWhile (p : Char → Bool) (cs : List Char) : List Char :=
  (cs.reverse.dropWhile p).reverse

/-- Drops white space at both ends. -/
def trimChars (cs : List Char) : List Char :=
  dropEndWhile isBlank (trimStartChars cs)

/-- Drops white space at both ends of a text. -/
def trim (s : String) : String :=
  String.ofList (trimChars s.toList)

/-- A text without anything but white space. -/
def isBlankText (s : String) : Bool :=
  s.toList.all isBlank

/-- Folds the letters A to Z to lower case and keeps every other character. -/
def asciiLower (s : String) : String :=
  String.ofList (s.toList.map Char.toLower)

/-- Does `needle` stand at the front of `cs`? If so, what follows it? -/
def dropPrefix? : (needle cs : List Char) → Option (List Char)
  | [], cs => some cs
  | _ :: _, [] => none
  | n :: ns, c :: cs => if n = c then dropPrefix? ns cs else none

/-- Replaces every occurrence of `needle` in `cs`, scanning from the left. After
a match the scan goes on behind it; `fuel` bounds the number of steps. -/
def replaceChars (needle by' : List Char) : (fuel : Nat) → List Char → List Char
  | 0, cs => cs
  | _ + 1, [] => []
  | fuel + 1, c :: cs =>
    match dropPrefix? needle (c :: cs) with
    | some rest => by' ++ replaceChars needle by' fuel rest
    | none => c :: replaceChars needle by' fuel cs

/-- Replaces every occurrence of a non-empty `needle` by another text. -/
def replace (s needle by' : String) : String :=
  String.ofList (replaceChars needle.toList by'.toList (s.toList.length + 1) s.toList)

/-- Splits at the first character satisfying `p`, which is dropped. -/
def cutFirst? (p : Char → Bool) : List Char → Option (List Char × List Char)
  | [] => none
  | c :: cs =>
    if p c then some ([], cs) else (cutFirst? p cs).map fun (before, after) => (c :: before, after)

/-- Splits at every occurrence of a separator, which is dropped. The result is
never empty. -/
def splitChars (separator : Char) : List Char → List (List Char)
  | [] => [[]]
  | c :: cs =>
    if c = separator then [] :: splitChars separator cs
    else
      match splitChars separator cs with
      | [] => [[c]]
      | first :: rest => (c :: first) :: rest

/-- Splits a text at every occurrence of a separator. -/
def split (separator : Char) (s : String) : List String :=
  (splitChars separator s.toList).map String.ofList

/-- Does `needle` occur somewhere in `cs`? -/
def occursIn (needle : List Char) : List Char → Bool
  | [] => needle.isEmpty
  | c :: cs => (dropPrefix? needle (c :: cs)).isSome || occursIn needle cs

/-- Joins texts with a separator between neighbours. -/
def join (separator : String) : List String → String
  | [] => ""
  | [s] => s
  | s :: rest => s ++ separator ++ join separator rest

/-- The bytes of a text in UTF-8. -/
def utf8 (s : String) : List UInt8 :=
  s.toList.flatMap String.utf8EncodeChar

/-- The text of a byte string, if it is well-formed UTF-8. -/
def ofUtf8? (bytes : List UInt8) : Option String :=
  String.fromUTF8? ⟨bytes.toArray⟩

/-- The bytes of a text are read as that text. -/
theorem ofUtf8?_utf8 (s : String) : ofUtf8? (utf8 s) = some s := by
  have bytes : (⟨(utf8 s).toArray⟩ : ByteArray) = s.toByteArray := by
    rw [← String.utf8Encode_toList, List.utf8Encode, utf8]
    exact ByteArray.ext (by simp)
  rw [ofUtf8?, bytes, String.fromUTF8?, dif_pos s.isValidUTF8]
  rfl

/-- Every character that the standard class of blanks knows is white space here. -/
theorem isBlank_of_isWhitespace (c : Char) (h : c.isWhitespace) : isBlank c := by
  simp only [Char.isWhitespace, Bool.or_eq_true, decide_eq_true_eq] at h
  rcases h with ((h | h) | h) | h <;> subst h <;> decide

end Federation.Text
