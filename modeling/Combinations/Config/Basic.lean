import Combinations.SizeRange
import Combinations.Text.Style

/-!
# Configurations

A `Config` holds everything that a run can be asked for: the sizes of its combinations, the window of
them that is delivered, and how they are shown.  It is immutable, and it cannot hold an inverted
range of sizes.

A `Draft` is a configuration in the making.  Its two sizes are set freely and are looked at only by
`Draft.build`, which is the only way from a draft to a configuration; `Config.toDraft` goes back, and
`build_toDraft` says that nothing is lost on the way.
-/

set_option autoImplicit false

namespace Combinations

/-- The part of a run that is delivered: from the combination with ordinal `start`, counted from 0,
at most `limit` combinations, where a limit of 0 is no limit. -/
structure Window where
  start : UInt64
  limit : UInt64
  deriving DecidableEq, Repr

/-- What a run can be asked for apart from its sizes. -/
structure Options where
  window : Window
  /-- Whether a sink is told the number of each combination. -/
  showNumbers : Bool
  /-- Whether a run that starts at size 0 visits the empty combination. -/
  showEmpty : Bool
  /-- How a text sink writes a combination. -/
  style : TextStyle
  /-- Whether every visit is logged. -/
  debug : Bool
  deriving DecidableEq, Repr

/-- Everything, from the start, without numbers and without the empty combination. -/
def Options.default : Options := ⟨⟨0, 0⟩, false, false, TextStyle.default, false⟩

/-- A configuration in the making, whose sizes may still be inverted. -/
structure Draft extends Options where
  sizeMin : UInt32
  sizeMax : Option UInt32
  deriving DecidableEq, Repr

/-- The request that a run carries out. -/
structure Config extends Options where
  sizes : SizeRange
  deriving DecidableEq

/-- All non-empty combinations. -/
def Config.default : Config := ⟨Options.default, SizeRange.default⟩

/-- The draft that holds the values of a configuration. -/
def Config.toDraft (config : Config) : Draft :=
  ⟨config.toOptions, config.sizes.min, config.sizes.max⟩

/-- The configuration described by a draft, unless its sizes are inverted. -/
def Draft.build (draft : Draft) : Except Error Config :=
  (SizeRange.new draft.sizeMin draft.sizeMax).map fun sizes => ⟨draft.toOptions, sizes⟩

/-- The draft to start from when no configuration is given. -/
def Draft.default : Draft := Config.default.toDraft

/-- Taking a configuration apart and building it again gives it back. -/
theorem build_toDraft (config : Config) : config.toDraft.build = .ok config := by
  simp only [Config.toDraft, Draft.build, SizeRange.new_self]
  rfl

/-- The same request restricted to another window.  Sizes and texts stay, so a combination keeps the
number that it has in the unrestricted run. -/
def Config.withWindow (config : Config) (window : Window) : Config :=
  { config with window := window }

end Combinations
