import HostFilter.Compilation
import Mathlib.Data.List.Forall2

/-!
# Compiling in sequence

Consultations follow each other by laws that do not depend on what is asked: doing two of
them in a row is associative, and a result that asks nothing can be left out.  With these
laws a chain of operands compiles as the list of its operands, and two chains in a row
compile as one.

Main results:

- Theorem `Formula.members_induction`: induction over formulas with all members of a group
  at once.
- Theorem `Formula.compileAll_eq_ok_iff`: a list of formulas compiles exactly if each of
  them does, to the list of their conditions.
- Theorem `Formula.compile_chained_append`: a chain compiles as its two parts joined.
-/

namespace HostFilter

/-! ## Consultations in a row -/

namespace Consult

variable {α β γ : Type}

/-- A result that asks nothing is handed on. -/
@[simp]
theorem lift_ok_andThen (a : α) (f : α → Consult β) : (lift (.ok a)).andThen f = f a :=
  rfl

/-- Handing the result on as it is changes nothing. -/
@[simp]
theorem andThen_lift_ok (x : Consult α) : (x.andThen fun a => lift (.ok a)) = x := by
  rcases x with ⟨asked, outcome⟩
  cases outcome with
  | error e => rfl
  | ok a => simp [andThen, lift]

/-- Three consultations in a row can be bracketed either way. -/
theorem andThen_assoc (x : Consult α) (f : α → Consult β) (g : β → Consult γ) :
    (x.andThen f).andThen g = x.andThen fun a => (f a).andThen g := by
  rcases x with ⟨asked, outcome⟩
  cases outcome with
  | error e => rfl
  | ok a =>
    rcases hf : f a with ⟨asked', outcome'⟩
    cases outcome' with
    | error e => simp [andThen, hf]
    | ok b => simp [andThen, hf]

/-- Two consultations in a row succeed exactly if the first does and the second does on
its result. -/
theorem outcome_andThen_eq_ok_iff {x : Consult α} {f : α → Consult β} {b : β} :
    (x.andThen f).outcome = .ok b ↔ ∃ a, x.outcome = .ok a ∧ (f a).outcome = .ok b := by
  rcases x with ⟨asked, outcome⟩
  cases outcome with
  | error e => simp [andThen]
  | ok a => simp [andThen]

end Consult

/-! ## Joining many conditions -/

namespace Condition

instance (op : Connective) : Std.Associative (combine op) :=
  ⟨combine_assoc op⟩

/-- Joining a list in two parts is joining the two parts. -/
theorem foldl_combine_append (op : Connective) (c d : Condition) (cs ds : List Condition) :
    (cs ++ d :: ds).foldl (combine op) c =
      combine op (cs.foldl (combine op) c) (ds.foldl (combine op) d) := by
  rw [List.foldl_append, List.foldl_cons, List.foldl_assoc]

end Condition

/-! ## Compiling many formulas -/

namespace Formula

/-- Induction over formulas: a property of all members of a group passes to the group. -/
@[elab_as_elim, induction_eliminator]
theorem members_induction {motive : Formula → Prop} (clause : ∀ c, motive (.clause c))
    (group : ∀ op members, (∀ f ∈ members, motive f) → motive (.group op members))
    (f : Formula) : motive f := by
  refine Formula.rec clause group (fun _ h => absurd h (by simp)) ?_ f
  intro f fs hf hfs g hg
  rcases List.mem_cons.mp hg with rfl | hg
  · exact hf
  · exact hfs g hg

variable {settings : Settings} {provider : Provider}

/-- A list of formulas compiles exactly if each of them does, to their conditions. -/
theorem compileAll_eq_ok_iff {fs : List Formula} {cs : List Condition} :
    (compileAll settings provider fs).outcome = .ok cs ↔
      List.Forall₂ (fun f c => (f.compile settings provider).outcome = .ok c) fs cs := by
  induction fs generalizing cs with
  | nil =>
    rw [compileAll, List.forall₂_nil_left_iff]
    constructor
    · rintro ⟨⟩
      rfl
    · rintro rfl
      rfl
  | cons f fs ih =>
    rw [compileAll, List.forall₂_cons_left_iff]
    simp only [Consult.outcome_andThen_eq_ok_iff, ih]
    constructor
    · rintro ⟨c, hf, cs', hfs, ⟨⟩⟩
      exact ⟨c, cs', hf, hfs, rfl⟩
    · rintro ⟨c, cs', hf, hfs, rfl⟩
      exact ⟨c, hf, cs', hfs, rfl⟩

/-- Two lists of formulas in a row compile one after the other. -/
theorem compileAll_append (fs gs : List Formula) :
    compileAll settings provider (fs ++ gs) =
      (compileAll settings provider fs).andThen fun cs =>
        (compileAll settings provider gs).andThen fun ds => .lift (.ok (cs ++ ds)) := by
  induction fs with
  | nil => simp [compileAll]
  | cons f fs ih => simp [compileAll, ih, Consult.andThen_assoc]

/-- A chain compiles as its operands, joined from left to right. -/
theorem compile_chained (op : Connective) (f : Formula) (fs : List Formula) :
    (chained op f fs).compile settings provider =
      (f.compile settings provider).andThen fun c =>
        (compileAll settings provider fs).andThen fun cs =>
          .lift (.ok (cs.foldl (Condition.combine op) c)) := by
  cases fs with
  | nil => simp [chained, compileAll]
  | cons g gs => simp [chained, compile, compileAll, Consult.andThen_assoc]

/-- A chain in two parts compiles as the two parts in a row, joined. -/
theorem compile_chained_append (op : Connective) (f g : Formula) (fs gs : List Formula) :
    (chained op f (fs ++ g :: gs)).compile settings provider =
      ((chained op f fs).compile settings provider).andThen fun c =>
        ((chained op g gs).compile settings provider).andThen fun d =>
          .lift (.ok (Condition.combine op c d)) := by
  simp only [compile_chained, compileAll_append, compileAll, Consult.andThen_assoc,
    Consult.lift_ok_andThen, Condition.foldl_combine_append]

end Formula
end HostFilter
