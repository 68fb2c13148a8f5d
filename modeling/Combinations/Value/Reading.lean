import Combinations.Value.Numeral

/-!
# Reading a document

A document is read from its text: `null`, `true`, `false`, numerals, strings in double quotes, lists
in square brackets and objects in braces, with blanks between them.  Of two entries of an object with
one key the later one counts.

A value nests as deep as its text says, so the reader is bounded by a count of steps.  An element or
an entry is read in two steps and takes up a character at least, the bracket or the comma in front of
it; so two steps for every character, which is what `Value.ofText?` grants, are enough.
-/

set_option autoImplicit false

namespace Combinations
namespace Value

/-! ## Blanks and strings -/

/-- Whether a character may stand between the parts of a document. -/
def isBlank (c : Char) : Bool := c == ' ' || c == '\n' || c == '\r' || c == '\t'

/-- A text without the blanks at its front. -/
def skipBlanks (text : List Char) : List Char := text.dropWhile isBlank

/-- The character that is written as a backslash and a letter. -/
def escaped? : Char → Option Char
  | '"' => some '"'
  | '\\' => some '\\'
  | '/' => some '/'
  | 'b' => some '\x08'
  | 'f' => some '\x0c'
  | 'n' => some '\n'
  | 'r' => some '\r'
  | 't' => some '\t'
  | _ => none

/-- The number of a hexadecimal digit. -/
def hexValue? (d : Char) : Option Nat :=
  if d.isDigit then some (d.toNat - '0'.toNat)
  else if 'a' ≤ d ∧ d ≤ 'f' then some (d.toNat - 'a'.toNat + 10)
  else if 'A' ≤ d ∧ d ≤ 'F' then some (d.toNat - 'A'.toNat + 10)
  else none

/-- The number of hexadecimal digits. -/
def hexNumber? (digits : List Char) : Option Nat :=
  digits.foldlM (fun n d => (hexValue? d).map (16 * n + ·)) 0

/-- The character of a pair of 16-bit units, or of a single one; none if a half of a pair stands
alone. -/
def character? : (high : Option Nat) → (unit : Nat) → Option Char
  | none, unit => if unit.isValidChar then some (Char.ofNat unit) else none
  | some high, unit =>
    if 0xDC00 ≤ unit ∧ unit ≤ 0xDFFF then
      some (Char.ofNat (0x10000 + (high - 0xD800) * 0x400 + (unit - 0xDC00)))
    else none

/-- The string whose opening quote is behind us, and what follows its closing quote.  The characters
read so far are `done`, the latest first; `high` is the first half of a pair whose second half has to
follow. -/
def readString? (high : Option Nat) (done : List Char) : List Char → Option (String × List Char)
  | [] => none
  | '\\' :: 'u' :: a :: b :: c :: d :: rest =>
    match hexNumber? [a, b, c, d] with
    | none => none
    | some unit =>
      if high.isNone && decide (0xD800 ≤ unit ∧ unit ≤ 0xDBFF) then
        readString? (some unit) done rest
      else
        match character? high unit with
        | none => none
        | some c => readString? none (c :: done) rest
  | '\\' :: c :: rest =>
    match high, escaped? c with
    | none, some c => readString? none (c :: done) rest
    | _, _ => none
  | c :: rest =>
    if high.isSome || decide (c.toNat < 32) then none
    else if c == '"' then some (String.ofList done.reverse, rest)
    else readString? none (c :: done) rest

/-! ## Values -/

/-- The word at the front of a text, and what follows it. -/
def readWord? : List Char → Option (Value × List Char)
  | 'n' :: 'u' :: 'l' :: 'l' :: rest => some (null, rest)
  | 't' :: 'r' :: 'u' :: 'e' :: rest => some (bool true, rest)
  | 'f' :: 'a' :: 'l' :: 's' :: 'e' :: rest => some (bool false, rest)
  | _ => none

/-- A numeral or a word at the front of a text, and what follows it. -/
def readPlain? (text : List Char) : Option (Value × List Char) :=
  match Numeral.read? text with
  | some (numeral, rest) => numeral.value?.map fun value => (value, rest)
  | none => readWord? text

/-- The key at the front of a text, and what follows the colon behind it. -/
def readKey? (text : List Char) : Option (String × List Char) :=
  match skipBlanks text with
  | '"' :: rest =>
    match readString? none [] rest with
    | some (key, rest) =>
      match skipBlanks rest with
      | ':' :: rest => some (key, rest)
      | _ => none
    | none => none
  | _ => none

mutual

/-- The value at the front of a text, and what follows it. -/
def read? : (steps : Nat) → List Char → Option (Value × List Char)
  | 0, _ => none
  | steps + 1, text =>
    match skipBlanks text with
    | '[' :: rest =>
      match skipBlanks rest with
      | ']' :: rest => some (list [], rest)
      | rest => readElements? steps [] rest
    | '\x7b' :: rest =>
      match skipBlanks rest with
      | '\x7d' :: rest => some (object [], rest)
      | rest => readEntries? steps [] rest
    | '"' :: rest => (readString? none [] rest).map fun (s, rest) => (string s, rest)
    | rest => readPlain? rest

/-- The list whose elements `done`, the latest first, are behind us, and what follows it. -/
def readElements? : (steps : Nat) → (done : List Value) → List Char → Option (Value × List Char)
  | 0, _, _ => none
  | steps + 1, done, text =>
    match read? steps text with
    | none => none
    | some (value, rest) =>
      match skipBlanks rest with
      | ',' :: rest => readElements? steps (value :: done) rest
      | ']' :: rest => some (list (value :: done).reverse, rest)
      | _ => none

/-- The object whose entries `done`, the latest first, are behind us, and what follows it. -/
def readEntries? : (steps : Nat) → (done : List (String × Value)) → List Char →
    Option (Value × List Char)
  | 0, _, _ => none
  | steps + 1, done, text =>
    match readKey? text with
    | none => none
    | some (key, rest) =>
      match read? steps rest with
      | none => none
      | some (value, rest) =>
        let done := (key, value) :: done.filter (·.1 != key)
        match skipBlanks rest with
        | ',' :: rest => readEntries? steps done rest
        | '\x7d' :: rest => some (object done.reverse, rest)
        | _ => none

end

/-- The value that a text is written for, if it is written for one. -/
def ofText? (text : String) : Option Value :=
  match read? (2 * text.length + 1) text.toList with
  | some (value, rest) => if (skipBlanks rest).isEmpty then some value else none
  | none => none

end Value
end Combinations
