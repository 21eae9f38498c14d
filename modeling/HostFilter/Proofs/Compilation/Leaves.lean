import HostFilter.Proofs.Compilation.Truth
import HostFilter.Proofs.FactPath.Steps

/-!
# The leaves of a condition

A clause stands for a condition that is no join, of one of three shapes.  Joining moves such
conditions between joins and keeps their order, so the leaves of a compiled condition, read
from left to right, are what the clauses of its formula stand for, one by one.

Main results:

- Theorem `Clause.interpret_eq_ok_iff`: what a clause can stand for, and when.
- Theorem `Condition.leaves_foldl_combine`: joining many conditions keeps their leaves.
- Theorem `Formula.means_leaves_of_compile`: the leaves of a compiled condition belong to the
  clauses of the formula, in order.
- Theorem `Condition.alike_leaves`: conditions that are alike have leaves that are alike.
-/

namespace HostFilter

/-! ## What a clause can stand for -/

namespace Clause

variable {settings : Settings} {provider : Provider}

/-- The conditions that a clause can stand for: the comparison of a field, the containment of
a document, or a search in some fields. -/
inductive Means (settings : Settings) (provider : Provider) (cl : Clause) : Condition → Prop where
  | field {path : String} (htarget : Target.ofKey settings cl.key.text = .field path) :
      Means settings provider cl (.field ⟨path, .exact, .ofFieldWord cl.value⟩)
  | facts {path : String} {ss : List Step}
      (htarget : Target.ofKey settings cl.key.text = .facts path)
      (hsteps : FactPath.steps settings cl.key.text path = .ok ss) :
      Means settings provider cl (.facts ⟨FactPath.column settings,
        FactPath.document ss (Scalar.ofFactWord cl.value).toJson⟩)
  | search {relation : Option String} {fields : List String}
      (htarget : Target.ofKey settings cl.key.text = .search relation)
      (hfields : provider (relation.getD settings.rootModel) = some fields) (hne : fields ≠ []) :
      Means settings provider cl (.search (fields.map fun field =>
        ⟨searchPath settings relation field, .contains, .ofFieldWord cl.value⟩))

/-- A search succeeds exactly if there are fields to look at. -/
theorem searchOutcome_eq_ok_iff {relation : Option String} {value : Scalar} {model : String}
    {found : Option (List String)} {c : Condition} :
    searchOutcome settings relation value model found = .ok c ↔
      ∃ fields, found = some fields ∧ fields ≠ [] ∧
        c = .search (fields.map fun field => ⟨searchPath settings relation field, .contains, value⟩) := by
  match found with
  | none => simp [searchOutcome]
  | some [] => simp [searchOutcome]
  | some (field :: fields) => simp [searchOutcome, eq_comm]

/-- A clause stands for exactly what its target, its path and the provider allow. -/
theorem interpret_eq_ok_iff {cl : Clause} {c : Condition} :
    (cl.interpret settings provider).outcome = .ok c ↔ Means settings provider cl c := by
  constructor
  · intro h
    unfold interpret at h
    split at h
    · rename_i htarget
      cases h
      exact .field htarget
    · rename_i path htarget
      rw [FactPath.spell_eq_map_steps] at h
      cases hsteps : FactPath.steps settings cl.key.text path with
      | error e => simp [hsteps, Consult.lift, Except.map] at h
      | ok ss =>
        rw [hsteps] at h
        cases h
        exact .facts htarget hsteps
    · rename_i relation htarget
      rcases searchOutcome_eq_ok_iff.mp h with ⟨fields, hfields, hne, rfl⟩
      exact .search htarget hfields hne
  · intro h
    cases h with
    | field htarget => simp [interpret, htarget, Consult.lift]
    | facts htarget hsteps =>
      simp [interpret, htarget, FactPath.spell_eq_map_steps, hsteps, Consult.lift, Except.map]
    | search htarget hfields hne =>
      rw [interpret, htarget]
      exact searchOutcome_eq_ok_iff.mpr ⟨_, hfields, hne, rfl⟩

end Clause

/-! ## Leaves -/

/-- Lists of lists that are related item by item are related once they are strung together. -/
theorem forall₂_flatMap {α β γ δ : Type} {R : α → β → Prop} {P : γ → δ → Prop} {f : α → List γ}
    {g : β → List δ} {xs : List α} {ys : List β} (h : List.Forall₂ R xs ys)
    (hitems : ∀ x ∈ xs, ∀ y, R x y → List.Forall₂ P (f x) (g y)) :
    List.Forall₂ P (xs.flatMap f) (ys.flatMap g) := by
  induction h with
  | nil => exact .nil
  | @cons x y xs ys hxy _ ih =>
    rcases List.forall_mem_cons.mp hitems with ⟨hx, hxs⟩
    rw [List.flatMap_cons, List.flatMap_cons]
    exact List.rel_append (hx y hxy) (ih hxs)

namespace Condition

/-- Induction over conditions: a property of all members of a join passes to the join. -/
@[elab_as_elim]
theorem members_induction {motive : Condition → Prop} (field : ∀ test, motive (.field test))
    (facts : ∀ test, motive (.facts test)) (search : ∀ tests, motive (.search tests))
    (join : ∀ op members, (∀ c ∈ members, motive c) → motive (.join op members))
    (c : Condition) : motive c := by
  refine Condition.rec field facts search join (fun _ h => absurd h (by simp)) ?_ c
  intro c cs hc hcs d hd
  rcases List.mem_cons.mp hd with rfl | hd
  · exact hc
  · exact hcs d hd

mutual

/-- The parts of a condition that are no joins, from left to right. -/
def leaves : Condition → List Condition
  | .field test => [.field test]
  | .facts test => [.facts test]
  | .search tests => [.search tests]
  | .join _ members => leavesAll members

/-- The leaves of a list of conditions. -/
def leavesAll : List Condition → List Condition
  | [] => []
  | c :: cs => c.leaves ++ leavesAll cs

end

@[simp]
theorem leavesAll_eq_flatMap (cs : List Condition) : leavesAll cs = cs.flatMap leaves := by
  induction cs with
  | nil => rfl
  | cons c cs ih => simp [leavesAll, ih]

/-- What a condition contributes to a join has its leaves. -/
theorem flatMap_leaves_operands (op : Connective) (c : Condition) :
    (c.operands op).flatMap leaves = c.leaves := by
  cases c with
  | join op' members =>
    by_cases hop : op' = op
    · simp [operands, hop, leaves]
    · simp [operands, hop]
  | _ => simp [operands]

/-- Joining two conditions keeps their leaves. -/
theorem leaves_combine (op : Connective) (c d : Condition) :
    (combine op c d).leaves = c.leaves ++ d.leaves := by
  rw [combine, leaves, leavesAll_eq_flatMap, List.flatMap_append, flatMap_leaves_operands,
    flatMap_leaves_operands]

/-- Joining many conditions keeps their leaves. -/
theorem leaves_foldl_combine (op : Connective) (c : Condition) (cs : List Condition) :
    (cs.foldl (combine op) c).leaves = (c :: cs).flatMap leaves := by
  induction cs generalizing c with
  | nil => simp
  | cons d ds ih => simp [ih, leaves_combine]

/-- Members of joins that are equal by `==` are so one by one. -/
theorem forall₂_of_beqAll {cs ds : List Condition} (h : beqAll cs ds = true) :
    List.Forall₂ (fun c d => (c == d) = true) cs ds := by
  induction cs generalizing ds with
  | nil =>
    cases ds with
    | nil => exact .nil
    | cons d ds => simp [beqAll] at h
  | cons c cs ih =>
    cases ds with
    | nil => simp [beqAll] at h
    | cons d ds =>
      rw [beqAll, Bool.and_eq_true] at h
      exact .cons h.1 (ih h.2)

/-- Conditions that are equal by `==` have leaves that are alike. -/
theorem alike_leaves_of_beq {c d : Condition} (h : (c == d) = true) :
    List.Forall₂ Alike c.leaves d.leaves := by
  induction c using members_induction generalizing d with
  | join op members ih =>
    cases d with
    | join op' members' =>
      have hall : (op == op' && beqAll members members') = true := h
      have hmembers := forall₂_of_beqAll (Bool.and_eq_true_iff.mp hall).2
      rw [leaves, leaves, leavesAll_eq_flatMap, leavesAll_eq_flatMap]
      exact forall₂_flatMap hmembers fun c hc d hcd => ih c hc hcd
    | _ => cases h
  | _ =>
    -- A leaf is equal only to a leaf of its own kind.
    cases d <;> first | exact .cons (.inr h) .nil | cases h

/-- Conditions that are alike have leaves that are alike, one by one. -/
theorem alike_leaves {c d : Condition} (h : Alike c d) :
    List.Forall₂ Alike c.leaves d.leaves := by
  rcases h with rfl | h
  · exact List.forall₂_same.mpr fun e _ => .inl rfl
  · exact alike_leaves_of_beq h

end Condition

/-! ## Leaves of compiled formulas -/

/-- A clause stands for a leaf. -/
theorem Clause.Means.leaves_eq {settings : Settings} {provider : Provider} {cl : Clause}
    {c : Condition} (h : Means settings provider cl c) : c.leaves = [c] := by
  cases h <;> rfl

namespace Formula

variable {settings : Settings} {provider : Provider}

/-- The leaves of a compiled condition are what the clauses of the formula stand for, in
order. -/
theorem means_leaves_of_compile {f : Formula} {c : Condition}
    (h : (f.compile settings provider).outcome = .ok c) :
    List.Forall₂ (Clause.Means settings provider) f.clauses c.leaves := by
  induction f generalizing c with
  | clause cl =>
    have hmeans := Clause.interpret_eq_ok_iff.mp h
    rw [clauses, hmeans.leaves_eq]
    exact .cons hmeans .nil
  | group op members ih =>
    rcases compile_group_eq_ok h with ⟨d, ds, hmembers, rfl⟩
    rw [clauses, clausesAll_eq_flatMap, Condition.leaves_foldl_combine]
    exact forall₂_flatMap hmembers fun f hf c hc => ih f hf hc

end Formula
end HostFilter
