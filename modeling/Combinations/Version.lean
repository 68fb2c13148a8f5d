/-!
# The version of the library
-/

set_option autoImplicit false

namespace Combinations

/-- The version that the library reports. -/
def version : String := "0.1.0"

end Combinations
