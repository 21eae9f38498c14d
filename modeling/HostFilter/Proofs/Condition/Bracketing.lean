import HostFilter.Condition.Basic
import Mathlib.Data.List.Forall2

/-!
# Joining in any bracketing

Several conditions can be joined two at a time in many ways.  Each way gives the same join:
its members are, in order, the members of those conditions that are joins of the connective
themselves, and every other condition as it stands.  This holds of all conditions, also of
joins that no filter compiles to, such as joins without members or with members of their own
connective, and what lies deeper than one level stays where it is.

Main results:

- Theorem `contributes_iff`: what joining takes from a condition.
- Theorem `Bracketing.operands_joined`: a bracketing contributes what its conditions
  contribute.
- Theorem `Bracketing.joined_eq_of_leaves_eq`: all bracketings of a list of conditions give
  one join, with known members.
-/

namespace HostFilter
namespace Condition

/-- What a condition puts into a join of `op`: a join of `op` puts its members there and
dissolves, anything else puts itself there as it is. -/
inductive Contributes (op : Connective) : Condition → List Condition → Prop where
  | members (members : List Condition) : Contributes op (.join op members) members
  | itself {c : Condition} (h : ∀ members, c ≠ .join op members) : Contributes op c [c]

variable {op : Connective}

/-- What a condition contributes is what joining takes from it. -/
theorem contributes_iff {c : Condition} {ds : List Condition} :
    Contributes op c ds ↔ ds = c.operands op := by
  constructor
  · intro h
    cases h with
    | members => simp [operands]
    | itself hne => exact (operands_of_ne fun inner heq => hne inner heq.symm).symm
  · rintro rfl
    by_cases hjoin : ∃ members, c = .join op members
    · rcases hjoin with ⟨members, rfl⟩
      simpa [operands] using Contributes.members members
    · rw [not_exists] at hjoin
      rw [operands_of_ne fun inner heq => hjoin inner heq.symm]
      exact .itself hjoin

/-- The contributions of several conditions are what joining takes from each of them. -/
theorem forall₂_contributes_iff {cs : List Condition} {parts : List (List Condition)} :
    List.Forall₂ (Contributes op) cs parts ↔ parts = cs.map (operands op) := by
  constructor
  · intro h
    induction h with
    | nil => rfl
    | cons hc _ ih => rw [List.map_cons, contributes_iff.mp hc, ih]
  · rintro rfl
    rw [List.forall₂_map_right_iff, List.forall₂_same]
    intro c _
    exact contributes_iff.mpr rfl

/-- A way of joining conditions two at a time: brackets around one condition, or around two
parts that are bracketed themselves. -/
inductive Bracketing where
  | leaf (c : Condition)
  | node (left right : Bracketing)

namespace Bracketing

/-- The bracketed conditions from left to right. -/
def leaves : Bracketing → List Condition
  | .leaf c => [c]
  | .node left right => left.leaves ++ right.leaves

/-- The condition that joining along the brackets gives. -/
def joined (op : Connective) : Bracketing → Condition
  | .leaf c => c
  | .node left right => combine op (left.joined op) (right.joined op)

/-- Joined along its brackets, a bracketing contributes what its conditions contribute. -/
theorem operands_joined (op : Connective) (b : Bracketing) :
    (b.joined op).operands op = b.leaves.flatMap (operands op) := by
  induction b with
  | leaf c => simp [joined, leaves]
  | node left right ihleft ihright =>
    rw [joined, operands_combine, ihleft, ihright, leaves, List.flatMap_append]

/-- With more than one condition the outermost brackets are around two parts, so the result
is a join. -/
theorem joined_eq_join (op : Connective) {b : Bracketing} (htwo : 2 ≤ b.leaves.length) :
    b.joined op = .join op (b.leaves.flatMap (operands op)) := by
  cases b with
  | leaf c => simp [leaves] at htwo
  | node left right =>
    rw [joined, combine, operands_joined, operands_joined, leaves, List.flatMap_append]

/-- However two or more conditions are bracketed, joining them gives the join of what each of
them contributes, in order. -/
theorem joined_eq_of_leaves_eq (op : Connective) (cs : List Condition) (htwo : 2 ≤ cs.length) :
    ∃ parts, List.Forall₂ (Contributes op) cs parts ∧
      ∀ b : Bracketing, b.leaves = cs → b.joined op = .join op parts.flatten := by
  refine ⟨cs.map (operands op), forall₂_contributes_iff.mpr rfl, ?_⟩
  rintro b rfl
  rw [joined_eq_join op htwo, List.flatMap_def]

/-- Bracketed in the middle or from the right, the join without members vanishes, and the join
inside a join of its own connective stays there, as do the search and the joins of the other
connective. -/
theorem joined_eq_of_leaves_eq_hand_built :
    (Bracketing.node (.node (.leaf (.join .or [])) (.leaf (.search [⟨"c", .contains, .int 3⟩])))
        (.node (.leaf (.join .or [.join .or [.field ⟨"a", .exact, .int 1⟩]]))
          (.leaf (.join .and [])))).joined .or =
      .join .or [.search [⟨"c", .contains, .int 3⟩], .join .or [.field ⟨"a", .exact, .int 1⟩],
        .join .and []] ∧
    (Bracketing.node (.leaf (.join .or [])) (.node (.leaf (.search [⟨"c", .contains, .int 3⟩]))
        (.node (.leaf (.join .or [.join .or [.field ⟨"a", .exact, .int 1⟩]]))
          (.leaf (.join .and []))))).joined .or =
      .join .or [.search [⟨"c", .contains, .int 3⟩], .join .or [.field ⟨"a", .exact, .int 1⟩],
        .join .and []] := by
  rcases joined_eq_of_leaves_eq .or [.join .or [], .search [⟨"c", .contains, .int 3⟩],
    .join .or [.join .or [.field ⟨"a", .exact, .int 1⟩]], .join .and []] (by simp) with
      ⟨parts, hparts, hjoined⟩
  obtain rfl := forall₂_contributes_iff.mp hparts
  exact ⟨hjoined _ rfl, hjoined _ rfl⟩

end Bracketing
end Condition
end HostFilter
