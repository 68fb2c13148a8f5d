import Combinations.Text.CharClass.Unprintable
import Combinations.Text.CharClass.Extending

/-!
# Quoted texts

A text shown inside a message or a log stands between double quotes.  A quote and a backslash are
written behind a backslash, and so are newline, carriage return, tab and NUL as `n`, `r`, `t` and
`0`.  A character without an appearance of its own, and one that would attach to the character before
it, is written as its hexadecimal code in braces behind `\u`.  All others stand for themselves.
-/

set_option autoImplicit false

namespace Combinations
namespace Quoted

/-- How one character is written inside quotes. -/
def escape (c : Char) : List Char :=
  match c with
  | '"' => ['\\', '"']
  | '\\' => ['\\', '\\']
  | '\n' => ['\\', 'n']
  | '\r' => ['\\', 'r']
  | '\t' => ['\\', 't']
  | '\x00' => ['\\', '0']
  | c =>
    if CharClass.unprintable.contains c || CharClass.extending.contains c then
      ['\\', 'u', '\x7b'] ++ Nat.toDigits 16 c.toNat ++ ['\x7d']
    else [c]

/-- A text in quotes. -/
def text (s : String) : String :=
  "\"" ++ String.ofList (s.toList.flatMap escape) ++ "\""

/-- A list in square brackets, its parts separated by a comma and a space. -/
def list (parts : List String) : String := "[" ++ ", ".intercalate parts ++ "]"

end Quoted
end Combinations
