import Combinations.Decimal.Shortest
import Combinations.Text.Quoted

/-!
# Document values

The values that a configuration document is made of.  Whole numbers are kept apart from floats, so a
float whose value is whole is not a whole number.
-/

set_option autoImplicit false

namespace Combinations

/-- A value of a configuration document. -/
inductive Value where
  | null
  | bool (b : Bool)
  | integer (i : Int)
  | float (x : Float)
  | string (s : String)
  | list (elements : List Value)
  | object (entries : List (String × Value))
  deriving Inhabited

namespace Value

/-- A value as it is named in a message: scalars in full, the others by their kind. -/
def describe : Value → String
  | null => "null"
  | bool b => "boolean `" ++ (if b then "true" else "false") ++ "`"
  | integer i => "integer `" ++ toString i ++ "`"
  | float x => "floating point `" ++ Decimal.render x ++ "`"
  | string s => "string " ++ Quoted.text s
  | list _ => "sequence"
  | object _ => "map"

/-- An unset value is null. -/
def ofOption {α : Type} (write : α → Value) : Option α → Value
  | none => null
  | some a => write a

/-- A machine word as a value. -/
def word32 (x : UInt32) : Value := integer (x.toNat : Int)

/-- A machine word as a value. -/
def word64 (x : UInt64) : Value := integer (x.toNat : Int)

/-! ## The order of keys -/

/-- Puts an entry in front of the first one whose key is not smaller. -/
def insertByKey (entry : String × Value) : List (String × Value) → List (String × Value)
  | [] => [entry]
  | head :: rest =>
    if entry.1 ≤ head.1 then entry :: head :: rest else head :: insertByKey entry rest

/-- The entries of an object in ascending order of their keys, compared character by character. -/
def byKey : List (String × Value) → List (String × Value)
  | [] => []
  | entry :: rest => insertByKey entry (byKey rest)

theorem perm_insertByKey (entry : String × Value) (entries : List (String × Value)) :
    (insertByKey entry entries).Perm (entry :: entries) := by
  induction entries with
  | nil => exact List.Perm.refl _
  | cons head rest ih =>
    simp only [insertByKey]
    split
    · exact List.Perm.refl _
    · exact (ih.cons head).trans (List.Perm.swap entry head rest)

/-- Ordering the entries loses none and repeats none. -/
theorem perm_byKey (entries : List (String × Value)) : (byKey entries).Perm entries := by
  induction entries with
  | nil => exact List.Perm.refl _
  | cons entry rest ih => exact (perm_insertByKey entry (byKey rest)).trans (ih.cons entry)

end Value
end Combinations
