import HostFilter.Connective
import HostFilter.Json.Basic
import HostFilter.Scalar

/-!
# Conditions

What a filter asks of a host, free of any query engine: comparisons of fields,
containment in the fact document, the alternatives of a search, and joins of these.
Joining onto a join of the same connective appends to it, so a chain of joins does
not depend on how it was bracketed.

Main results:

- Theorem `combine_assoc`: joining is associative.
-/

namespace HostFilter

/-- How a field is compared. -/
inductive Lookup where
  | exact
  | contains
deriving DecidableEq

/-- The name of a lookup. -/
def Lookup.name : Lookup → String
  | .exact => "exact"
  | .contains => "contains"

/-- A comparison of the field at a path. -/
structure FieldTest where
  path : String
  lookup : Lookup
  value : Scalar

/-- Containment of a document in the document column at a path. -/
structure FactTest where
  path : String
  document : Json

/-- What is asked of a host. -/
inductive Condition where
  | field (test : FieldTest)
  | facts (test : FactTest)
  /-- One of the comparisons holds; never merged into a join around it. -/
  | search (tests : List FieldTest)
  | join (op : Connective) (members : List Condition)

namespace Condition

/-- What a condition contributes to a join by `op`: its members if it is such a join,
else itself. -/
def operands (op : Connective) : Condition → List Condition
  | .join op' members => if op' = op then members else [.join op' members]
  | c => [c]

/-- A condition that is no join by `op` contributes itself to one. -/
theorem operands_of_ne {op : Connective} {c : Condition} (h : ∀ inner, .join op inner ≠ c) :
    c.operands op = [c] := by
  cases c with
  | join op' members =>
    have hop : op' ≠ op := by
      rintro rfl
      exact h members rfl
    simp [operands, hop]
  | _ => rfl

/-- Join two conditions. -/
def combine (op : Connective) (c d : Condition) : Condition :=
  .join op (c.operands op ++ d.operands op)

@[simp]
theorem operands_combine (op : Connective) (c d : Condition) :
    (combine op c d).operands op = c.operands op ++ d.operands op := by
  simp [combine, operands]

/-- Joining is associative. -/
theorem combine_assoc (op : Connective) (b c d : Condition) :
    combine op (combine op b c) d = combine op b (combine op c d) := by
  rw [combine, operands_combine, combine, operands_combine, List.append_assoc]

mutual

/-- Every path that a condition looks at and how, from left to right.  A containment
looks at its column as a whole. -/
def lookups : Condition → List (String × Lookup)
  | .field t => [(t.path, t.lookup)]
  | .facts t => [(t.path, .contains)]
  | .search tests => tests.map fun t => (t.path, t.lookup)
  | .join _ members => lookupsAll members

/-- The lookups of a list of conditions. -/
def lookupsAll : List Condition → List (String × Lookup)
  | [] => []
  | c :: cs => c.lookups ++ lookupsAll cs

end

end Condition

/-! ## Equality -/

/-- Equality of comparisons, doubles as numbers. -/
def FieldTest.beq (s t : FieldTest) : Bool :=
  s.path == t.path && s.lookup == t.lookup && s.value == t.value

instance : BEq FieldTest := ⟨FieldTest.beq⟩

/-- Equality of containments, doubles as numbers. -/
def FactTest.beq (s t : FactTest) : Bool :=
  s.path == t.path && s.document == t.document

instance : BEq FactTest := ⟨FactTest.beq⟩

namespace Condition

mutual

/-- Equality of conditions, doubles as numbers. -/
def beq : Condition → Condition → Bool
  | .field s, .field t => s == t
  | .facts s, .facts t => s == t
  | .search s, .search t => s == t
  | .join op members, .join op' members' => op == op' && beqAll members members'
  | _, _ => false

/-- Equality of lists of conditions, one by one. -/
def beqAll : List Condition → List Condition → Bool
  | [], [] => true
  | c :: cs, d :: ds => c.beq d && beqAll cs ds
  | _, _ => false

end

instance : BEq Condition := ⟨beq⟩

end Condition
end HostFilter
