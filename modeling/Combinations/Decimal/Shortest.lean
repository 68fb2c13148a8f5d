/-!
# The shortest decimal text of a float

A float stands for an interval of reals: all that round to it.  Its text is the decimal with the
fewest digits inside that interval, and the one nearest to the float if there are several.

Everything is computed exactly on natural numbers.  `Grid` is the comparison of a float with the
multiples of one power of ten: the float, the ends of its interval and one step of the grid, all
brought to a common scale.  The search goes through ever finer grids and takes the first on which one
of the two neighbours of the float lies inside the interval.
-/

set_option autoImplicit false

namespace Combinations
namespace Decimal

/-- A positive finite float, `mantissa * 2 ^ exponent`. -/
structure Binary where
  mantissa : Nat
  exponent : Int
  /-- Whether the next float below is only half as far away as the next one above. -/
  narrowBelow : Bool

/-- The float with the given bits, without its sign. -/
def Binary.ofBits (bits : UInt64) : Binary :=
  let field := ((bits >>> 52) &&& 0x7FF).toNat
  let fraction := (bits &&& 0xFFFFFFFFFFFFF).toNat
  if field = 0 then ⟨fraction, -1074, false⟩
  else ⟨0x10000000000000 + fraction, (field : Int) - 1075, fraction == 0 && decide (1 < field)⟩

/-- A float among the multiples of `step`, with the ends of its interval. -/
structure Grid where
  step : Nat
  low : Nat
  value : Nat
  high : Nat
  /-- Whether the ends belong to the interval. -/
  closed : Bool

/-- The float `x` among the multiples of `10 ^ place`, scaled so that all is whole.  The ends of the
interval are counted in quarters of the unit of the mantissa. -/
def Binary.grid (x : Binary) (place : Int) : Grid :=
  let scale := (1 <<< (x.exponent - 2).toNat) * Nat.pow 10 (-place).toNat
  { step := (1 <<< (2 - x.exponent).toNat) * Nat.pow 10 place.toNat
    low := (if x.narrowBelow then 4 * x.mantissa - 1 else 4 * x.mantissa - 2) * scale
    value := 4 * x.mantissa * scale
    high := (4 * x.mantissa + 2) * scale
    closed := x.mantissa % 2 == 0 }

/-- Whether the multiple `d * step` lies in the interval. -/
def Grid.holds (g : Grid) (d : Nat) : Bool :=
  let point := d * g.step
  decide (g.low < point ∧ point < g.high) || g.closed && (point == g.low || point == g.high)

/-- The multiple in the interval that is nearest to the float, if there is one.  Of two at the same
distance it is the even one. -/
def Grid.nearest? (g : Grid) : Option Nat :=
  let d := g.value / g.step
  let middle := (2 * d + 1) * g.step
  match g.holds d, g.holds (d + 1) with
  | true, true =>
    some (if 2 * g.value < middle ∨ 2 * g.value = middle ∧ d % 2 = 0 then d else d + 1)
  | true, false => some d
  | false, true => some (d + 1)
  | false, false => none

/-- The digits of a natural number, most significant first. -/
def digits (n : Nat) : List Char := Nat.toDigits 10 n

/-- The least `k` for which the float is below `10 ^ k`. -/
def Binary.magnitude (x : Binary) : Int :=
  let g := x.grid 0
  if g.step ≤ g.value then (digits (g.value / g.step)).length
  else 1 - ((digits (g.step / g.value)).length : Int)

/-- The decimal `n * 10 ^ place` with the fewest digits that rounds to the float.  Seventeen digits
are enough for every float; the exact value stands in for a search that finds none. -/
def Binary.shortest (x : Binary) : Nat × Int :=
  let found := (List.range 17).findSome? fun (i : Nat) =>
    let place := x.magnitude - (i + 1 : Nat)
    (x.grid place).nearest?.map (·, place)
  found.getD (x.mantissa * (1 <<< x.exponent.toNat) * Nat.pow 5 (-x.exponent).toNat,
    -((-x.exponent).toNat : Int))

/-- The text of the decimal `0.d₁d₂… * 10 ^ (lead + 1)`, where `lead` is the exponent of the first
digit.  Exponents from -5 to 15 are written positionally, with at least one digit after the point;
others with the exponent and its sign behind an `e`. -/
def layOut (ds : List Char) (lead : Int) : List Char :=
  if -5 ≤ lead ∧ lead ≤ 15 then
    if lead < 0 then
      ['0', '.'] ++ List.replicate (-lead - 1).toNat '0' ++ ds
    else
      let whole := lead.toNat + 1
      let tail := ds.drop whole
      ds.take whole ++ List.replicate (whole - ds.length) '0' ++ ['.'] ++
        (if tail.isEmpty then ['0'] else tail)
  else
    let tail := ds.drop 1
    ds.take 1 ++ (if tail.isEmpty then [] else '.' :: tail) ++ ['e', if lead < 0 then '-' else '+'] ++
      digits lead.natAbs

/-- The text of a float. -/
def render (x : Float) : String :=
  let sign := if x.toBits >>> 63 = 0 then "" else "-"
  if x.isNaN then "NaN"
  else if x.isInf then sign ++ "inf"
  else if x == 0 then sign ++ "0.0"
  else
    let (n, place) := (Binary.ofBits x.toBits).shortest
    let all := digits n
    let kept := (all.reverse.dropWhile (· == '0')).reverse
    sign ++ String.ofList (layOut kept (place + (all.length : Int) - 1))

end Decimal
end Combinations
