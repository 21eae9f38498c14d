import HostFilter.Proofs.Compilation.Leaves

/-!
# The lookups of a compiled condition

An audit of a condition lists every path that it looks at.  The list is put together join by
join, but joins add nothing of their own to it: it is made of what the leaves report, from left
to right, and the leaves of a compiled condition are what the clauses of its formula stand for.
A search is one leaf here, also right below an `or`, and reports each of its comparisons.

Main results:

- Theorem `Condition.lookups_eq_flatMap_leaves`: the lookups of a condition are those of its
  leaves.
- Theorem `Clause.Means.reports`: what a clause stands for reports the right paths.
- Theorem `Formula.compile_keeps_leaves`: compiling loses, repeats, merges and moves no clause,
  and the audit follows the clauses.
-/

namespace HostFilter
namespace Condition

@[simp]
theorem lookupsAll_eq_flatMap (cs : List Condition) : lookupsAll cs = cs.flatMap lookups := by
  induction cs with
  | nil => rfl
  | cons c cs ih => simp [lookupsAll, ih]

/-- The lookups of a condition are those of its leaves, one leaf after the other. -/
theorem lookups_eq_flatMap_leaves (c : Condition) : c.lookups = c.leaves.flatMap lookups := by
  induction c using members_induction with
  | join op members ih =>
    rw [lookups, lookupsAll_eq_flatMap, leaves, leavesAll_eq_flatMap, List.flatMap_assoc]
    exact List.flatMap_congr ih
  | _ => simp [leaves]

/-- The lookups that a leaf has to report: the comparison of a field its path, for equality; a
containment the fact column; and a search the path of each of its comparisons, in order. -/
inductive Reports (settings : Settings) : Condition → List (String × Lookup) → Prop where
  | field (path : String) (value : Scalar) :
      Reports settings (.field ⟨path, .exact, value⟩) [(path, .exact)]
  | facts (document : Json) :
      Reports settings (.facts ⟨FactPath.column settings, document⟩)
        [(FactPath.column settings, .contains)]
  | search {tests : List FieldTest} (htests : ∀ t ∈ tests, t.lookup = .contains) :
      Reports settings (.search tests) (tests.map fun t => (t.path, .contains))

/-- A search that looks for parts of texts only reports what it has to. -/
theorem reports_search (settings : Settings) {tests : List FieldTest}
    (htests : ∀ t ∈ tests, t.lookup = .contains) :
    Reports settings (.search tests) (lookups (.search tests)) := by
  have hlookups : lookups (.search tests) = tests.map fun t => (t.path, .contains) :=
    List.map_congr_left fun t ht => by rw [htests t ht]
  rw [hlookups]
  exact .search htests

end Condition

namespace Clause

variable {settings : Settings} {provider : Provider}

/-- What a clause stands for reports the right paths. -/
theorem Means.reports {cl : Clause} {c : Condition} (h : Means settings provider cl c) :
    c.Reports settings c.lookups := by
  cases h with
  | field => exact .field _ _
  | facts => exact .facts _
  | search =>
    refine Condition.reports_search settings fun t ht => ?_
    rcases List.mem_map.mp ht with ⟨field, _, rfl⟩
    rfl

/-- So do the conditions that many clauses stand for. -/
theorem reports_of_means {cls : List Clause} {cs : List Condition}
    (h : List.Forall₂ (Means settings provider) cls cs) :
    List.Forall₂ (Condition.Reports settings) cs (cs.map Condition.lookups) := by
  induction h with
  | nil => exact .nil
  | cons hmeans _ ih => exact .cons hmeans.reports ih

end Clause

namespace Formula

/-- Compiling loses, repeats, merges and moves no clause: the leaves of the condition are what
the clauses of the formula stand for, one by one and in order, and the lookups of the condition
are what these leaves report, one after the other. -/
theorem compile_keeps_leaves (settings : Settings) (provider : Provider) (f : Formula)
    (c : Condition) (h : (f.compile settings provider).outcome = .ok c) :
    f.clauses.map (fun cl => (cl.interpret settings provider).outcome) = c.leaves.map .ok ∧
      c.leaves.length = f.clauseCount ∧
        ∃ reports, List.Forall₂ (Condition.Reports settings) c.leaves reports ∧
          c.lookups = reports.flatten := by
  have hmeans := means_leaves_of_compile h
  have hlength : c.leaves.length = f.clauseCount :=
    hmeans.length_eq.symm.trans f.length_clauses
  refine ⟨?_, hlength, c.leaves.map Condition.lookups, ?_, ?_⟩
  · rw [← List.forall₂_eq_eq_eq, List.forall₂_map_left_iff, List.forall₂_map_right_iff]
    exact hmeans.imp fun cl d hd => Clause.interpret_eq_ok_iff.mpr hd
  · exact Clause.reports_of_means hmeans
  · rw [Condition.lookups_eq_flatMap_leaves, List.flatMap_def]

/-- The `or` in front is spliced into the `or` around it, the search in it is not: three clauses
are three leaves, and the two fields of the search are reported in its place. -/
theorem compile_keeps_leaves_search :
    [(⟨.bare "search", .bare "db"⟩ : Clause), ⟨.bare "name", .bare "web"⟩,
        ⟨.bare "ansible_facts__os", .bare "BSD"⟩].map (fun cl =>
          (cl.interpret {} fun _ => some ["name", "address"]).outcome) =
        [.ok (.search [⟨"name", .contains, .text "db"⟩, ⟨"address", .contains, .text "db"⟩]),
          .ok (.field ⟨"name", .exact, .text "web"⟩),
          .ok (.facts ⟨"ansible_facts__contains", .obj [("os", .str "BSD")]⟩)] ∧
      ∃ reports, List.Forall₂ (Condition.Reports {})
          [.search [⟨"name", .contains, .text "db"⟩, ⟨"address", .contains, .text "db"⟩],
            .field ⟨"name", .exact, .text "web"⟩,
            .facts ⟨"ansible_facts__contains", .obj [("os", .str "BSD")]⟩] reports ∧
        [("name", .contains), ("address", .contains), ("name", .exact),
          ("ansible_facts__contains", .contains)] = reports.flatten := by
  have h : ((Formula.group .or [.group .or [.clause ⟨.bare "search", .bare "db"⟩,
      .clause ⟨.bare "name", .bare "web"⟩],
        .clause ⟨.bare "ansible_facts__os", .bare "BSD"⟩]).compile {} fun _ =>
          some ["name", "address"]).outcome = .ok (.join .or
        [.search [⟨"name", .contains, .text "db"⟩, ⟨"address", .contains, .text "db"⟩],
          .field ⟨"name", .exact, .text "web"⟩,
          .facts ⟨"ansible_facts__contains", .obj [("os", .str "BSD")]⟩]) := by
    cbv
  rcases compile_keeps_leaves {} _ _ _ h with ⟨hleaves, _, hreports⟩
  exact ⟨hleaves, hreports⟩

end Formula
end HostFilter
