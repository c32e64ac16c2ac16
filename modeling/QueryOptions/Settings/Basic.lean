import QueryOptions.Number.Numeral
import QueryOptions.Text.Basic

set_option autoImplicit false

namespace QueryOptions

structure Settings where
  -- How many grammar levels may be open at once. Parentheses cost several levels, each link
  -- of a chain of operators or path segments costs one; items of a list cost none.
  maxDepth : Nat := 256
  ignoreCase : Bool := false
  -- Whether the names of nested options may stand without their `$`.
  allowBareNames : Bool := false
  allowRefInSelect : Bool := false
  maxPathLength : Nat := maxCount
  customOperators : List String := []
deriving DecidableEq, Repr

namespace Settings

def matchesKeyword (settings : Settings) (text keyword : String) : Bool :=
  Text.sameWord settings.ignoreCase text keyword

end Settings

end QueryOptions
