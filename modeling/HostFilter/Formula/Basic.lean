import HostFilter.Token.Basic

/-!
# Formulas

The tree that a filter spells: clauses `key=value` joined by connectives.  A group
holds the operands of one connective in order; parentheses leave no trace of their
own.

Main results:

- Theorem `Formula.length_clauses`: the clauses of a formula are counted as they are listed.
-/

namespace HostFilter

/-- A comparison as it is written, not yet interpreted. -/
structure Clause where
  key : Word
  value : Word
deriving DecidableEq

/-- A boolean combination of clauses. -/
inductive Formula where
  | clause (c : Clause)
  | group (op : Connective) (members : List Formula)

namespace Formula

/-- The formula of a chain of operands: a single operand stands for itself. -/
def chained (op : Connective) (first : Formula) : List Formula → Formula
  | [] => first
  | others => .group op (first :: others)

mutual

/-- The clauses of a formula from left to right. -/
def clauses : Formula → List Clause
  | .clause c => [c]
  | .group _ members => clausesAll members

/-- The clauses of a list of formulas from left to right. -/
def clausesAll : List Formula → List Clause
  | [] => []
  | f :: fs => f.clauses ++ clausesAll fs

end

mutual

/-- The number of clauses of a formula. -/
def clauseCount : Formula → Nat
  | .clause _ => 1
  | .group _ members => clauseCountAll members

/-- The number of clauses of a list of formulas. -/
def clauseCountAll : List Formula → Nat
  | [] => 0
  | f :: fs => f.clauseCount + clauseCountAll fs

end

mutual

/-- The clauses of a formula are counted as they are listed. -/
theorem length_clauses (f : Formula) : f.clauses.length = f.clauseCount := by
  cases f with
  | clause c => rfl
  | group op members => exact length_clausesAll members

theorem length_clausesAll (fs : List Formula) :
    (clausesAll fs).length = clauseCountAll fs := by
  cases fs with
  | nil => rfl
  | cons f fs =>
    rw [clausesAll, clauseCountAll, List.length_append, length_clauses f, length_clausesAll fs]

end

mutual

/-- The text of a formula, with a given spelling of the connectives. -/
def renderWith (spelling : Connective → String) : Formula → List Char
  | .clause c => c.key.written.toList ++ '=' :: c.value.written.toList
  | .group op members =>
    '(' :: (' ' :: (spelling op).toList ++ [' ']).intercalate (renderAllWith spelling members)
      ++ [')']

/-- The texts of a list of formulas. -/
def renderAllWith (spelling : Connective → String) : List Formula → List (List Char)
  | [] => []
  | f :: fs => f.renderWith spelling :: renderAllWith spelling fs

end

/-- The text of a formula for display. -/
def text (f : Formula) : String :=
  String.ofList (f.renderWith Connective.label)

end Formula
end HostFilter
