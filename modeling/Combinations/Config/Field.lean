import Combinations.Config.Basic
import Combinations.Value

/-!
# The fields of a configuration

In a document a configuration is eleven named fields in a fixed order, the order in which a list of
values without names is read.  `Config.get` is the value of a field in a configuration.
-/

set_option autoImplicit false

namespace Combinations

/-- A field of a configuration document. -/
inductive Config.Field where
  | sizeMin
  | sizeMax
  | start
  | limit
  | showNumbers
  | showEmpty
  | nulTerminate
  | delimiter
  | opening
  | closing
  | debug
  deriving DecidableEq, Repr

namespace Config.Field

/-- All fields in their order. -/
def all : List Field :=
  [sizeMin, sizeMax, start, limit, showNumbers, showEmpty, nulTerminate, delimiter, opening,
    closing, debug]

/-- The key of a field. -/
def name : Field → String
  | sizeMin => "size_min"
  | sizeMax => "size_max"
  | start => "start"
  | limit => "count"
  | showNumbers => "show_numbers"
  | showEmpty => "show_empty"
  | nulTerminate => "nul_terminate"
  | delimiter => "delimiter"
  | opening => "prefix"
  | closing => "suffix"
  | debug => "debug"

/-- The field with a given key. -/
def ofName? (key : String) : Option Field := all.find? (·.name == key)

theorem mem_all (field : Field) : field ∈ all := by
  cases field <;> simp [all]

end Config.Field

/-- The value of a field in a configuration; null where it is unset. -/
def Config.get (config : Config) : Config.Field → Value
  | .sizeMin => .word32 config.sizes.min
  | .sizeMax => .ofOption .word32 config.sizes.max
  | .start => .word64 config.window.start
  | .limit => .word64 config.window.limit
  | .showNumbers => .bool config.showNumbers
  | .showEmpty => .bool config.showEmpty
  | .nulTerminate => .bool config.style.nulTerminate
  | .delimiter => .string config.style.delimiter
  | .opening => .ofOption .string config.style.opening
  | .closing => .ofOption .string config.style.closing
  | .debug => .bool config.debug

end Combinations
