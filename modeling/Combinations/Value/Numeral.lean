import Combinations.Value

/-!
# Numerals

A numeral is read by its form.  Digits alone are a whole number, as long as it fits a signed or an
unsigned 64-bit word.  A numeral with a point or an exponent is a float, whatever its value, and so
are digits that fit no word and a zero behind a minus sign.

The float of a numeral is its significand, scaled by a power of ten in a single multiplication or
division of floats (`Numeral.scale`).  The significand is the number that the digits make without the
point, as far as they fit an unsigned 64-bit word; digits behind that are passed over
(`Numeral.takeIn`).
-/

set_option autoImplicit false

namespace Combinations

/-- A numeral as it is written. -/
structure Numeral where
  negative : Bool
  /-- The digits before the point. -/
  whole : List Char
  /-- The digits after the point; none if there is no point. -/
  fraction : List Char
  /-- The exponent, if one is written. -/
  exponent : Option Int

namespace Numeral

/-! ## Values -/

/-- The number of a decimal digit. -/
def digitValue (d : Char) : Nat := d.toNat - '0'.toNat

/-- The largest significand. -/
def significandMax : Nat := 18446744073709551615

/-- What the significand `m` becomes with digits behind it, up to the first that would make it too
large, and how many digits are passed over. -/
def takeIn (m : Nat) : List Char → Nat × Nat
  | [] => (m, 0)
  | d :: rest =>
    let next := 10 * m + digitValue d
    if next ≤ significandMax then takeIn next rest else (m, rest.length + 1)

/-- The whole number of a numeral that is written as one and fits a word. -/
def wholeNumber? (x : Numeral) : Option Int :=
  if x.fraction.isEmpty && x.exponent.isNone then
    match takeIn 0 x.whole with
    | (m, 0) =>
      if x.negative then
        if 0 < m ∧ m ≤ 9223372036854775808 then some (-(m : Int)) else none
      else some m
    | _ => none
  else none

/-- The largest power of ten that is a float has this exponent. -/
def maxPlaces : Nat := 308

/-- A power of ten, up to `maxPlaces`. -/
def tenTo (places : Nat) : Float := Float.ofScientific 1 false places

/-- A float multiplied by a power of ten, if the product is finite. -/
def enlarge (x : Float) (places : Nat) : Option Float :=
  if places ≤ maxPlaces then
    let product := x * tenTo places
    if product.isInf then none else some product
  else if x == 0 then some x
  else none

/-- A float divided by a power of ten; if that is beyond `maxPlaces`, in several steps. -/
def reduce (x : Float) (places : Nat) : Float :=
  if places ≤ maxPlaces then x / tenTo places
  else if x == 0 then x
  else reduce (x / tenTo maxPlaces) (places - maxPlaces)
termination_by places
decreasing_by
  simp only [maxPlaces] at *
  omega

/-- A float scaled by a power of ten, if the result is finite. -/
def scale (x : Float) (places : Int) : Option Float :=
  if 0 ≤ places then enlarge x places.toNat else some (reduce x (-places).toNat)

/-- The float of a numeral, if it is finite. -/
def toFloat? (x : Numeral) : Option Float :=
  let (m, passedBefore) := takeIn 0 x.whole
  let (m, passedAfter) := takeIn m x.fraction
  let places := x.exponent.getD 0 + passedBefore - (x.fraction.length - passedAfter : Nat)
  (scale (UInt64.ofNat m).toFloat places).map fun y => if x.negative then -y else y

/-- The value of a numeral, unless it is too large for a float. -/
def value? (x : Numeral) : Option Value :=
  match x.wholeNumber? with
  | some i => some (.integer i)
  | none => x.toFloat?.map .float

/-! ## Reading -/

/-- Whether digits can stand before the point: there are some, and no zero in front of others. -/
def canLead : List Char → Bool
  | [] => false
  | [_] => true
  | d :: _ => d != '0'

/-- The digits after a point at the front of a text, and what follows them. -/
def readFraction? : List Char → Option (List Char × List Char)
  | '.' :: rest =>
    let (digits, rest) := rest.span Char.isDigit
    if digits.isEmpty then none else some (digits, rest)
  | rest => some ([], rest)

/-- A sign at the front of a text, as whether it is a minus, and what follows it. -/
def readSign : List Char → Bool × List Char
  | '-' :: rest => (true, rest)
  | '+' :: rest => (false, rest)
  | rest => (false, rest)

/-- The number behind an `e` at the front of a text, and what follows it. -/
def readExponent? : List Char → Option (Option Int × List Char)
  | [] => some (none, [])
  | c :: rest =>
    if c == 'e' || c == 'E' then
      let (negative, rest) := readSign rest
      let (digits, rest) := rest.span Char.isDigit
      let size : Nat := digits.foldl (fun size d => 10 * size + digitValue d) 0
      if digits.isEmpty then none
      else some (some (if negative then -(size : Int) else size), rest)
    else some (none, c :: rest)

/-- The numeral at the front of a text, and what follows it. -/
def read? (text : List Char) : Option (Numeral × List Char) :=
  let (negative, text) := match text with
    | '-' :: rest => (true, rest)
    | _ => (false, text)
  let (whole, text) := text.span Char.isDigit
  if canLead whole then
    (readFraction? text).bind fun (fraction, text) =>
      (readExponent? text).map fun (exponent, text) =>
        (⟨negative, whole, fraction, exponent⟩, text)
  else none

end Numeral
end Combinations
