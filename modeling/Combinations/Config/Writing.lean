import Combinations.Config.Field

/-!
# Writing a configuration

A configuration is written as an object with all its fields in order, apart from those that are
unset.
-/

set_option autoImplicit false

namespace Combinations

/-- The entry of a field in the written form, unless the field is unset. -/
def Config.entry? (config : Config) (field : Config.Field) : Option (String × Value) :=
  match config.get field with
  | .null => none
  | value => some (field.name, value)

/-- The document that describes a configuration. -/
def Config.toValue (config : Config) : Value :=
  .object (Config.Field.all.filterMap config.entry?)

end Combinations
