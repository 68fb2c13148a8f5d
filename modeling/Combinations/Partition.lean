import Combinations.Config.Total
import Combinations.Event

/-!
# Splitting a run into windows

A run can be split into contiguous windows that together deliver exactly its combinations.  Each
window is an ordinary configuration, equal to the one that was split apart from its window, so windows
can be run in any place and split again.

`Config.partition` makes as many windows as asked for, or as many as there are combinations if those
are fewer.  Their lengths differ by at most one, the longer ones first.  No window is empty: a limit
of 0 would not mean an empty window but an unlimited one.
-/

set_option autoImplicit false

namespace Combinations

/-- `count` windows one behind the other from `start` on, `extra` of them of length `base + 1` and the
others of length `base`. -/
def Window.cut (base : Nat) : (extra count start : Nat) → List Window
  | _, 0, _ => []
  | 0, count + 1, start =>
    ⟨UInt64.ofNat start, UInt64.ofNat base⟩ :: cut base 0 count (start + base)
  | extra + 1, count + 1, start =>
    ⟨UInt64.ofNat start, UInt64.ofNat (base + 1)⟩ :: cut base extra count (start + (base + 1))

/-- The part of a run that is to be split: out of `total` combinations the `remaining` ones from
ordinal `start` on. -/
structure Selection where
  total : Nat
  start : Nat
  remaining : Nat
  deriving DecidableEq, Repr

/-- The combinations out of `total` that a window selects. -/
def Window.select (window : Window) (total : Nat) : Selection :=
  let start := min window.start.toNat total
  let rest := total - start
  ⟨total, start, if window.limit = 0 then rest else min rest window.limit.toNat⟩

/-- Splits a selection into at most `parts` windows. -/
def Selection.split (selection : Selection) (parts : Nat) : List Window :=
  Window.cut (selection.remaining / parts) (selection.remaining % parts)
    (min parts selection.remaining) selection.start

/-- Splits the run over `n` items into at most `parts` windows, with the event that reports it. -/
def Config.partition (config : Config) (n parts : Nat) : Except Error (Event × List Config) :=
  if parts = 0 then .error (.invalidConfig "cannot partition into zero windows")
  else (config.total n).map fun total =>
    let selection := config.window.select total
    let windows := selection.split parts
    (.partitioned selection.total selection.start selection.remaining windows.length,
      windows.map config.withWindow)

/-- Splits each of a list of runs, and puts the windows one behind the other. -/
def partitionEach (n parts : Nat) : List Config → Array Event × Except Error (List Config)
  | [] => (#[], .ok [])
  | config :: rest =>
    match config.partition n parts with
    | .error e => (#[], .error e)
    | .ok (event, windows) =>
      let (events, others) := partitionEach n parts rest
      (#[event] ++ events, others.map (windows ++ ·))

/-- Splits runs again and again, by each of a list of numbers of parts. -/
def subdivide (n : Nat) : List Nat → List Config → Array Event × Except Error (List Config)
  | [], configs => (#[], .ok configs)
  | parts :: rest, configs =>
    match partitionEach n parts configs with
    | (events, .error e) => (events, .error e)
    | (events, .ok windows) =>
      let (more, result) := subdivide n rest windows
      (events ++ more, result)

end Combinations
