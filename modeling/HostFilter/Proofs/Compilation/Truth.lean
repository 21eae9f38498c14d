import HostFilter.Proofs.Compilation.Sequence
import Mathlib

/-!
# The truth of filters and conditions

A condition is true or false once every single comparison is, and so is a formula, read
as the boolean combination that it spells.  Compiling keeps the truth: squashing a join
into a join of the same connective changes its shape and not its value.

Main results:

- Theorem `Condition.holds_combine`: joining two conditions is the connective of their
  truth.
- Theorem `Condition.holds_foldl_combine`: so is joining many.
- Theorem `Formula.compile_holds`: a formula and the condition that it stands for have the
  same truth.
-/

namespace HostFilter

/-- An assignment of truth to single comparisons and containments. -/
structure Assignment where
  field : FieldTest → Bool
  facts : FactTest → Bool

namespace Connective

/-- The truth of a join: `and` asks for all members, `or` for one. -/
def holds : Connective → List Bool → Bool
  | .and, members => members.all id
  | .or, members => members.any id

@[simp]
theorem holds_singleton (op : Connective) (b : Bool) : op.holds [b] = b := by
  cases op <;> simp [holds]

/-- The members of a join can be joined in two parts first. -/
theorem holds_append (op : Connective) (bs cs : List Bool) :
    op.holds (bs ++ cs) = op.holds [op.holds bs, op.holds cs] := by
  cases op <;> simp [holds]

/-- The first two members of a join can be joined first. -/
theorem holds_cons_cons (op : Connective) (b c : Bool) (bs : List Bool) :
    op.holds (b :: c :: bs) = op.holds (op.holds [b, c] :: bs) := by
  cases op <;> simp [holds, Bool.and_assoc, Bool.or_assoc]

end Connective

/-! ## Conditions -/

namespace Condition

mutual

/-- The truth of a condition under an assignment. -/
def holds (v : Assignment) : Condition → Bool
  | .field test => v.field test
  | .facts test => v.facts test
  | .search tests => tests.any v.field
  | .join op members => op.holds (truths v members)

/-- The truths of a list of conditions. -/
def truths (v : Assignment) : List Condition → List Bool
  | [] => []
  | c :: cs => c.holds v :: truths v cs

end

@[simp]
theorem truths_eq_map (v : Assignment) (cs : List Condition) : truths v cs = cs.map (holds v) := by
  induction cs with
  | nil => rfl
  | cons c cs ih => simp [truths, ih]

/-- A condition is true exactly if the join of what it contributes to a join is. -/
theorem holds_operands (v : Assignment) (op : Connective) (c : Condition) :
    op.holds ((c.operands op).map (holds v)) = c.holds v := by
  cases c with
  | field test => simp [operands]
  | facts test => simp [operands]
  | search tests => simp [operands]
  | join op' members =>
    by_cases hop : op' = op
    · simp [operands, holds, hop]
    · simp [operands, hop]

/-- Joining two conditions is the connective of their truth. -/
theorem holds_combine (v : Assignment) (op : Connective) (c d : Condition) :
    (combine op c d).holds v = op.holds [c.holds v, d.holds v] := by
  rw [combine, holds, truths_eq_map, List.map_append, Connective.holds_append, holds_operands,
    holds_operands]

/-- Joining many conditions is the connective of their truth. -/
theorem holds_foldl_combine (v : Assignment) (op : Connective) (c : Condition)
    (cs : List Condition) :
    (cs.foldl (combine op) c).holds v = op.holds (c.holds v :: cs.map (holds v)) := by
  induction cs generalizing c with
  | nil => simp
  | cons d ds ih =>
    rw [List.foldl_cons, ih, holds_combine, List.map_cons, ← Connective.holds_cons_cons]

end Condition

/-! ## Formulas -/

/-- The truth of a clause: that of the condition that it stands for.  A clause that stands
for none is false. -/
def Clause.holds (settings : Settings) (provider : Provider) (v : Assignment) (c : Clause) :
    Bool :=
  match (c.interpret settings provider).outcome with
  | .ok d => d.holds v
  | .error _ => false

namespace Formula

mutual

/-- The truth of a formula, with a given truth of its clauses. -/
def holds (meaning : Clause → Bool) : Formula → Bool
  | .clause c => meaning c
  | .group op members => op.holds (truths meaning members)

/-- The truths of a list of formulas. -/
def truths (meaning : Clause → Bool) : List Formula → List Bool
  | [] => []
  | f :: fs => f.holds meaning :: truths meaning fs

end

@[simp]
theorem truths_eq_map (meaning : Clause → Bool) (fs : List Formula) :
    truths meaning fs = fs.map (holds meaning) := by
  induction fs with
  | nil => rfl
  | cons f fs ih => simp [truths, ih]

variable {settings : Settings} {provider : Provider}

/-- A group that compiles is its members' conditions, joined from left to right. -/
theorem compile_group_eq_ok {op : Connective} {members : List Formula} {c : Condition}
    (h : ((Formula.group op members).compile settings provider).outcome = .ok c) :
    ∃ d ds, List.Forall₂ (fun f c => (f.compile settings provider).outcome = .ok c) members
      (d :: ds) ∧ c = ds.foldl (Condition.combine op) d := by
  rw [compile, Consult.outcome_andThen_eq_ok_iff] at h
  rcases h with ⟨cs, hcs, hc⟩
  cases cs with
  | nil => cases hc
  | cons d ds =>
    cases hc
    exact ⟨d, ds, compileAll_eq_ok_iff.mp hcs, rfl⟩

/-- Conditions to which formulas compile have the truths of the formulas, if each has. -/
theorem map_holds_eq {meaning : Clause → Bool} {v : Assignment} {fs : List Formula}
    {cs : List Condition}
    (hcompile : List.Forall₂ (fun f c => (f.compile settings provider).outcome = .ok c) fs cs)
    (hholds : ∀ f ∈ fs, ∀ c, (f.compile settings provider).outcome = .ok c →
      c.holds v = f.holds meaning) :
    cs.map (Condition.holds v) = fs.map (holds meaning) := by
  induction hcompile with
  | nil => rfl
  | @cons f c fs cs hf hfs ih =>
    rcases List.forall_mem_cons.mp hholds with ⟨hhead, htail⟩
    rw [List.map_cons, List.map_cons, hhead c hf, ih htail]

/-- The condition that a formula stands for is true exactly if the formula is. -/
theorem holds_eq_of_compile (v : Assignment) {f : Formula} {c : Condition}
    (h : (f.compile settings provider).outcome = .ok c) :
    c.holds v = f.holds (Clause.holds settings provider v) := by
  induction f generalizing c with
  | clause cl =>
    rw [compile] at h
    rw [holds, Clause.holds, h]
  | group op members ih =>
    rcases compile_group_eq_ok h with ⟨d, ds, hmembers, rfl⟩
    have htruths := map_holds_eq hmembers fun f hf c hc => ih f hf hc
    rw [Condition.holds_foldl_combine, ← List.map_cons, htruths, holds, truths_eq_map]

/-- Each of several formulas that compile does. -/
theorem exists_compile_of_mem {fs : List Formula} {cs : List Condition} {f : Formula}
    (hcompile : List.Forall₂ (fun f c => (f.compile settings provider).outcome = .ok c) fs cs)
    (hf : f ∈ fs) : ∃ c, (f.compile settings provider).outcome = .ok c := by
  induction hcompile with
  | nil => cases hf
  | @cons g c gs cs hg _ ih =>
    rcases List.mem_cons.mp hf with rfl | hf
    · exact ⟨c, hg⟩
    · exact ih hf

@[simp]
theorem clausesAll_eq_flatMap (fs : List Formula) : clausesAll fs = fs.flatMap clauses := by
  induction fs with
  | nil => rfl
  | cons f fs ih => simp [clausesAll, ih]

/-- Every clause of a formula that compiles stands for a condition. -/
theorem exists_interpret_of_compile {f : Formula} {c : Condition}
    (h : (f.compile settings provider).outcome = .ok c) :
    ∀ cl ∈ f.clauses, ∃ d, (cl.interpret settings provider).outcome = .ok d := by
  induction f generalizing c with
  | clause cl =>
    intro cl' hcl'
    rw [compile] at h
    obtain rfl : cl' = cl := by simpa [clauses] using hcl'
    exact ⟨c, h⟩
  | group op members ih =>
    intro cl hcl
    rcases compile_group_eq_ok h with ⟨d, ds, hmembers, rfl⟩
    rw [clauses, clausesAll_eq_flatMap, List.mem_flatMap] at hcl
    rcases hcl with ⟨f, hf, hcl⟩
    rcases exists_compile_of_mem hmembers hf with ⟨e, he⟩
    exact ih f hf he cl hcl

/-- Compiling keeps the truth: under every assignment, the condition that a formula stands
for is true exactly if the boolean combination of its clauses is, and each clause has a
condition of its own to be true by. -/
theorem compile_holds (v : Assignment) (f : Formula) (c : Condition)
    (h : (f.compile settings provider).outcome = .ok c) :
    (∀ cl ∈ f.clauses, ∃ d, (cl.interpret settings provider).outcome = .ok d) ∧
      c.holds v = f.holds (Clause.holds settings provider v) :=
  ⟨exists_interpret_of_compile h, holds_eq_of_compile v h⟩

/-- An `or` within an `or` is squashed around a search, which stays one member. -/
theorem compile_holds_squashed :
    ((Formula.group .or [.clause ⟨.bare "search", .bare "db"⟩, .group .or
      [.clause ⟨.bare "name", .bare "web"⟩, .clause ⟨.bare "ansible_facts__os", .bare "BSD"⟩]]).compile
        {} fun _ => some ["name", "address"]).outcome =
        .ok (.join .or [.search [⟨"name", .contains, .text "db"⟩, ⟨"address", .contains, .text "db"⟩],
          .field ⟨"name", .exact, .text "web"⟩,
          .facts ⟨"ansible_facts__contains", .obj [("os", .str "BSD")]⟩]) ∧
      (Formula.group .or [.clause ⟨.bare "search", .bare "db"⟩, .group .or
        [.clause ⟨.bare "name", .bare "web"⟩, .clause ⟨.bare "ansible_facts__os", .bare "BSD"⟩]]).holds
          (Clause.holds {} (fun _ => some ["name", "address"])
            ⟨fun t => t.path = "address", fun _ => false⟩) = true := by
  have h : ((Formula.group .or [.clause ⟨.bare "search", .bare "db"⟩, .group .or
      [.clause ⟨.bare "name", .bare "web"⟩, .clause ⟨.bare "ansible_facts__os", .bare "BSD"⟩]]).compile
        {} fun _ => some ["name", "address"]).outcome =
        .ok (.join .or [.search [⟨"name", .contains, .text "db"⟩, ⟨"address", .contains, .text "db"⟩],
          .field ⟨"name", .exact, .text "web"⟩,
          .facts ⟨"ansible_facts__contains", .obj [("os", .str "BSD")]⟩]) := by
    cbv
  refine ⟨h, ?_⟩
  rw [← (compile_holds ⟨fun t => t.path = "address", fun _ => false⟩ _ _ h).2]
  rfl

end Formula
end HostFilter
