import HostFilter.Formula.Parser
import HostFilter.Interpretation
import HostFilter.Token.Scan

/-!
# From a filter to a condition

A filter is cut into tokens, parsed into a formula, and the formula's clauses are
replaced by the conditions they stand for, from left to right; the members of a group
are joined in order.  The first failure ends the compilation.
-/

namespace HostFilter
namespace Formula

/-- The formula that a text spells, with an optional limit on its nesting. -/
def parse (maxDepth : Option Nat) (filter : String) : Except FilterError Formula :=
  match Token.scan filter with
  | .error offset => .error (.malformed filter (.openQuote offset))
  | .ok tokens =>
    match ofTokens maxDepth tokens with
    | .error (.fault fault) => .error (.malformed filter fault)
    | .error (.tooDeep max) => .error (.limitExceeded .nesting max)
    | .ok f => .ok f

/-- The formula that a text spells under the limits of the settings.  The length is
counted in characters and checked first. -/
def read (settings : Settings) (filter : String) : Except FilterError Formula :=
  match settings.maxLength with
  | some max =>
    if max < filter.length then .error (.limitExceeded .length max)
    else parse settings.maxDepth filter
  | none => parse settings.maxDepth filter

mutual

/-- The condition that a formula stands for. -/
def compile (settings : Settings) (provider : Provider) : Formula → Consult Condition
  | .clause c => c.interpret settings provider
  | .group op members =>
    (compileAll settings provider members).andThen fun
      | [] => .lift (.error (.malformed (Formula.group op members).text .emptyGroup))
      | first :: others => .lift (.ok (others.foldl (Condition.combine op) first))

/-- The conditions of a list of formulas, from left to right. -/
def compileAll (settings : Settings) (provider : Provider) :
    List Formula → Consult (List Condition)
  | [] => .lift (.ok [])
  | f :: fs =>
    (f.compile settings provider).andThen fun c =>
      (compileAll settings provider fs).andThen fun cs => .lift (.ok (c :: cs))

end

end Formula

/-- The condition that a filter stands for. -/
def compileFilter (settings : Settings) (provider : Provider) (filter : String) :
    Consult Condition :=
  match Formula.read settings filter with
  | .error e => .lift (.error e)
  | .ok f => f.compile settings provider

end HostFilter
