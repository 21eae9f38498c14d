/-!
# Connectives

The two ways in which conditions are joined.  Filters spell them in lower case,
printed trees in upper case.
-/

namespace HostFilter

/-- A connective between conditions. -/
inductive Connective where
  | and
  | or
deriving DecidableEq

namespace Connective

/-- The keyword of a connective in a filter. -/
def keyword : Connective → String
  | .and => "and"
  | .or => "or"

/-- A connective as printed trees show it. -/
def label : Connective → String
  | .and => "AND"
  | .or => "OR"

end Connective
end HostFilter
