/-!
# How a combination is written

One combination is written on one line: its number and a space if it has one, then the opening text,
the items with the delimiter between them, the closing text, and the terminator.  The terminator is a
newline, or NUL for readers that split at NUL.

`TextStyle.render` is that line as a whole.  `TextStyle.pieces` is the same line in the pieces in
which a sink hands it to its device; that they make up the line is `join_pieces`.
-/

set_option autoImplicit false

namespace Combinations

/-- What a sink receives for one combination: its number among all combinations, if numbers were
asked for, and the chosen items. -/
structure Record where
  number : Option Nat
  items : List String
  deriving DecidableEq, Repr

/-- The texts around the items of a written combination. -/
structure TextStyle where
  /-- The text between two items. -/
  delimiter : String
  /-- The text before the first item. -/
  opening : Option String
  /-- The text after the last item. -/
  closing : Option String
  /-- Whether a line ends in NUL instead of a newline. -/
  nulTerminate : Bool
  deriving DecidableEq, Repr

namespace TextStyle

/-- Items separated by one space, and nothing around them. -/
def default : TextStyle := ⟨" ", none, none, false⟩

/-- What ends a line. -/
def terminator (style : TextStyle) : String := if style.nulTerminate then "\x00" else "\n"

/-- The number of a record as it stands at the start of a line. -/
def numberPieces : Option Nat → List String
  | some n => [toString n, " "]
  | none => []

/-- The line of one record, in the pieces in which it is written. -/
def pieces (style : TextStyle) (record : Record) : List String :=
  numberPieces record.number ++ style.opening.toList ++
    record.items.intersperse style.delimiter ++ style.closing.toList ++ [style.terminator]

/-- The line of one record. -/
def render (style : TextStyle) (record : Record) : String :=
  let number := match record.number with
    | some n => toString n ++ " "
    | none => ""
  number ++ style.opening.getD "" ++ style.delimiter.intercalate record.items ++
    style.closing.getD "" ++ style.terminator

theorem join_numberPieces (number : Option Nat) :
    String.join (numberPieces number) =
      match number with
      | some n => toString n ++ " "
      | none => "" := by
  cases number <;> simp [numberPieces]

theorem join_toList (text : Option String) : String.join text.toList = text.getD "" := by
  cases text <;> simp

theorem join_intersperse (delimiter : String) (items : List String) :
    String.join (items.intersperse delimiter) = delimiter.intercalate items := by
  induction items with
  | nil => simp
  | cons x rest ih =>
    cases rest with
    | nil => simp
    | cons y rest =>
      rw [List.intersperse_cons_cons, String.join_cons, String.join_cons, ih,
        String.intercalate_cons_cons, String.append_assoc]

/-- **The pieces of a line make up the line.** -/
theorem join_pieces (style : TextStyle) (record : Record) :
    String.join (style.pieces record) = style.render record := by
  simp only [pieces, render, String.join_append, join_numberPieces, join_toList,
    join_intersperse, String.join_cons, String.join_nil, String.append_empty]

end TextStyle
end Combinations
