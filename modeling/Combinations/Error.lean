/-!
# What can go wrong

One type for every failure of the library, by cause.  The wording of each lives in `Error.message`
alone, and `Error.isConfig` tells the failures found before any combination was visited from those
found while counting or writing.
-/

set_option autoImplicit false

namespace Combinations

/-- A failure of counting, enumerating, splitting or writing. -/
inductive Error where
  /-- The sizes `min..=max` are inverted, or reach past the item set; `items` is the number of items
  when the range was checked against an item set. -/
  | invalidRange (min max : Nat) (items : Option Nat)
  /-- Combinations of at least `min > 0` items were asked of an empty item set. -/
  | emptyItemSet (min : Nat)
  /-- A total is larger than `maxOrdinal`. -/
  | overflow
  /-- The item set has `items` items, which is `itemLimit` or more. -/
  | tooManyItems (items : Nat)
  /-- A configuration could not be read, or cannot be used as asked. -/
  | invalidConfig (reason : String)
  /-- The device behind a text sink failed. -/
  | io (reason : String)
  deriving DecidableEq, Repr

namespace Error

/-- The text shown for a failure. -/
def message : Error → String
  | invalidRange min max items =>
    let context := match items with
      | some n => " for " ++ toString n ++ " items"
      | none => ""
    "invalid size range " ++ toString min ++ "..=" ++ toString max ++ context
  | emptyItemSet min => "cannot choose " ++ toString min ++ " items from an empty item set"
  | overflow => "number of combinations exceeds u64::MAX"
  | tooManyItems items => "too many items: " ++ toString items
  | invalidConfig reason => "configuration error: " ++ reason
  | io reason => "IO error: " ++ reason

/-- Whether the failure lies in the request itself, so that nothing was visited. -/
def isConfig : Error → Bool
  | invalidRange .. | emptyItemSet _ | tooManyItems _ | invalidConfig _ => true
  | overflow | io _ => false

end Error
end Combinations
