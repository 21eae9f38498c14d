import HostFilter.Proofs.Compilation.Order
import HostFilter.Proofs.FactPath.Spelling

/-!
# Where a failure comes from

A filter that does not compile is refused by the reader, for its spelling or for a limit, or
one of its clauses stands for no condition.  The error tells which: the reader's errors are
never those of a clause.  The compiler itself could complain only about a group without
members, and the reader returns no such group.

Main results:

- Theorem `SyntaxFault.reason_eq_emptyGroup_iff`: the wording of an empty group is that of no
  other fault.
- Theorem `Formula.read_eq_error`: with which errors the reader refuses a filter.
- Theorem `Clause.fails_of_interpret`: with which errors a clause fails, and when.
- Theorem `compileFilter_failure`: whose failure the error of a filter is.
-/

namespace HostFilter

/-- The wording of an empty group is that of no other fault. -/
theorem SyntaxFault.reason_eq_emptyGroup_iff {fault : SyntaxFault} :
    fault.reason = "empty group" ↔ fault = .emptyGroup := by
  constructor
  · intro h
    have hchars := congrArg String.toList h
    cases fault with
    | emptyGroup => rfl
    | openQuote => simp [reason] at hchars
    | empty => simp [reason] at hchars
    | unexpected => simp [reason] at hchars
    | emptyKey => simp [reason] at hchars
    | endsBefore => simp [reason] at hchars
    | unclosed => simp [reason] at hchars
  · rintro rfl
    rfl

/-! ## Failures of the reader -/

namespace Formula

variable {settings : Settings} {filter : String} {e : FilterError}

/-- Without a limit a text is refused for a fault of its spelling. -/
theorem parse_none_eq_error (h : parse none filter = .error e) :
    ∃ fault, e = .malformed filter fault ∧ fault ≠ .emptyGroup := by
  unfold parse at h
  split at h
  · cases h
    exact ⟨_, rfl, by simp⟩
  · rename_i tokens _
    by_cases hne : tokens = []
    · subst hne
      cases h
      exact ⟨_, rfl, by simp⟩
    · split at h
      · rename_i fault hfault
        cases h
        rcases exists_fault_of_error hne hfault with ⟨_, ⟨⟩, -, hgroup⟩
        exact ⟨fault, rfl, hgroup⟩
      · rename_i max hdeep
        rcases exists_fault_of_error hne hdeep with ⟨_, ⟨⟩, -⟩
      · cases h

/-- Under a limit a text is refused for the fault that it has without the limit, or for the
limit. -/
theorem parse_eq_error {limit : Option Nat} (h : parse limit filter = .error e) :
    (∃ fault, e = .malformed filter fault ∧ fault ≠ .emptyGroup) ∨
      ∃ max, e = .limitExceeded .nesting max := by
  cases limit with
  | none => exact .inl (parse_none_eq_error h)
  | some max =>
    have hlimited := parse_limited max filter
    generalize hfree : parse none filter = free at hlimited
    generalize hbound : parse (some max) filter = bound at hlimited h
    cases hlimited with
    | openQuote =>
      cases h
      exact .inl (parse_none_eq_error hfree)
    | empty =>
      cases h
      exact .inl (parse_none_eq_error hfree)
    | accepted =>
      split at h
      · cases h
        exact .inr ⟨max, rfl⟩
      · cases h
    | fault =>
      split at h
      · cases h
        exact .inr ⟨max, rfl⟩
      · cases h
        exact .inl (parse_none_eq_error hfree)

/-- A filter is refused by the reader for a fault of its spelling or for a limit. -/
theorem read_eq_error (h : read settings filter = .error e) :
    (∃ fault, e = .malformed filter fault ∧ fault ≠ .emptyGroup) ∨
      ∃ what max, e = .limitExceeded what max := by
  by_cases hlong : ∃ max, settings.maxLength = some max ∧ max < filter.length
  · rcases hlong with ⟨max, hmax⟩
    rw [(read_eq_length_iff settings filter max).mpr hmax] at h
    cases h
    exact .inr ⟨.length, max, rfl⟩
  · have hlength : ∀ max ∈ settings.maxLength, filter.length ≤ max := fun max hmax =>
      Nat.not_lt.mp fun hlt => hlong ⟨max, hmax, hlt⟩
    rw [read_of_length_le hlength] at h
    rcases parse_eq_error h with hfault | ⟨max, hmax⟩
    · exact .inl hfault
    · exact .inr ⟨.nesting, max, hmax⟩

/-- A formula that the reader returns is well formed. -/
theorem wellFormed_of_read {f : Formula} (h : read settings filter = .ok f) : f.WellFormed := by
  have hparse : parse settings.maxDepth filter = .ok f := by
    unfold read at h
    split at h
    · split at h
      · cases h
      · exact h
    · exact h
  exact wellFormed_of_parse (parse_none_of_ok hparse)

end Formula

/-! ## Failures of clauses -/

namespace FactPath

variable {settings : Settings} {key path : String} {e : FilterError}

/-- A path is refused for a lookup at its end, or else for a segment without a name. -/
theorem steps_eq_error (h : steps settings key path = .error e) :
    (∃ lookup, EndsUnsupported (Text.pieces settings.separator path) lookup ∧
      e = .unsupportedLookup settings.factKey lookup) ∨
      (∃ segment ∈ naming (Text.pieces settings.separator path), segment = "" ∨ segment = "[]") ∧
        e = .emptySegment key := by
  by_cases hunsupported : ∃ lookup, EndsUnsupported (Text.pieces settings.separator path) lookup
  · rcases hunsupported with ⟨lookup, hlookup⟩
    rw [steps, withoutLookup_of_unsupported hlookup] at h
    cases h
    exact .inl ⟨lookup, hlookup, rfl⟩
  · have hread : readSteps key (naming (Text.pieces settings.separator path)) = .error e := by
      rw [steps, withoutLookup_of_supported (not_exists.mp hunsupported)] at h
      exact h
    by_cases hempty : ∃ segment ∈ naming (Text.pieces settings.separator path),
        segment = "" ∨ segment = "[]"
    · rw [readSteps_eq_error hempty] at hread
      cases hread
      exact .inr ⟨hempty, rfl⟩
    · have hnamed : ∀ segment ∈ naming (Text.pieces settings.separator path),
          segment ≠ "" ∧ segment ≠ "[]" := by
        simpa using hempty
      rcases @exists_readSteps key _ hnamed with ⟨ss, hss⟩
      rw [hss] at hread
      cases hread

end FactPath

namespace Clause

variable {settings : Settings} {provider : Provider} {cl : Clause} {e : FilterError}

/-- The errors with which a clause can fail: its path into the fact document ends in a lookup
that is not supported or has a segment without a name, or its search is for a model that is
not known or has nothing to search in. -/
inductive Fails (settings : Settings) (provider : Provider) (cl : Clause) : FilterError → Prop where
  | unsupportedLookup {path lookup : String}
      (htarget : Target.ofKey settings cl.key.text = .facts path)
      (hlookup : FactPath.EndsUnsupported (Text.pieces settings.separator path) lookup) :
      Fails settings provider cl (.unsupportedLookup settings.factKey lookup)
  | emptySegment {path segment : String}
      (htarget : Target.ofKey settings cl.key.text = .facts path)
      (hmem : segment ∈ FactPath.naming (Text.pieces settings.separator path))
      (hempty : segment = "" ∨ segment = "[]") :
      Fails settings provider cl (.emptySegment cl.key.text)
  | unknownRelation {relation : Option String}
      (htarget : Target.ofKey settings cl.key.text = .search relation)
      (hmodel : provider (relation.getD settings.rootModel) = none) :
      Fails settings provider cl (.unknownRelation (relation.getD settings.rootModel))
  | noSearchFields {relation : Option String}
      (htarget : Target.ofKey settings cl.key.text = .search relation)
      (hmodel : provider (relation.getD settings.rootModel) = some []) :
      Fails settings provider cl (.noSearchFields (relation.getD settings.rootModel))

/-- A clause that stands for no condition fails in one of these ways. -/
theorem fails_of_interpret (h : (cl.interpret settings provider).outcome = .error e) :
    Fails settings provider cl e := by
  unfold interpret at h
  split at h
  · cases h
  · rename_i path htarget
    rw [FactPath.spell_eq_map_steps] at h
    cases hsteps : FactPath.steps settings cl.key.text path with
    | ok ss =>
      rw [hsteps] at h
      cases h
    | error e' =>
      rw [hsteps] at h
      cases h
      rcases FactPath.steps_eq_error hsteps with ⟨lookup, hlookup, rfl⟩ |
        ⟨⟨segment, hmem, hempty⟩, rfl⟩
      · exact .unsupportedLookup htarget hlookup
      · exact .emptySegment htarget hmem hempty
  · rename_i relation htarget
    cases hmodel : provider (relation.getD settings.rootModel) with
    | none =>
      simp only [search, Consult.ask, hmodel] at h
      cases h
      exact .unknownRelation htarget hmodel
    | some fields =>
      cases fields with
      | nil =>
        simp only [search, Consult.ask, hmodel] at h
        cases h
        exact .noSearchFields htarget hmodel
      | cons field fields =>
        simp only [search, Consult.ask, hmodel] at h
        cases h

/-- A clause is never at fault for what the reader checks, nor the installation for a clause. -/
theorem Fails.kind (h : Fails settings provider cl e) :
    e.isUserError = true ∧ (∀ text fault, e ≠ .malformed text fault) ∧
      ∀ what max, e ≠ .limitExceeded what max := by
  cases h with
  | unsupportedLookup => simp [FilterError.isUserError]
  | emptySegment => simp [FilterError.isUserError]
  | unknownRelation => simp [FilterError.isUserError]
  | noSearchFields => simp [FilterError.isUserError]

end Clause

/-! ## Failures of filters -/

/-- A formula that the reader returned fails as one of its clauses does. -/
theorem Formula.exists_clause_of_compile {settings : Settings} {provider : Provider}
    {f : Formula} {e : FilterError} (hf : f.WellFormed)
    (h : (f.compile settings provider).outcome = .error e) :
    ∃ cl ∈ f.clauses, (cl.interpret settings provider).outcome = .error e := by
  have hvisit := Consult.outcome_discard_eq_error_iff.mpr h
  rw [Formula.compile_discard hf] at hvisit
  rcases Clause.visit_eq_error hvisit with ⟨before, cl, after, hclauses, -, hcl, -⟩
  exact ⟨cl, by simp [hclauses], hcl⟩

/-- Whose failure the error of a filter is.  It is always the filter's, and not the
installation's.  A fault of the spelling is reported with the whole filter and a limit with
what it limits, both as the reader reports them, and it is never said that a group is empty.
In front of any other error the reader has succeeded, and the error is that of one of the
clauses. -/
theorem compileFilter_failure (settings : Settings) (provider : Provider) (filter : String)
    (e : FilterError) (h : (compileFilter settings provider filter).outcome = .error e) :
    e.isUserError = true ∧
      (∀ text fault, e = .malformed text fault →
        text = filter ∧ fault.reason ≠ "empty group" ∧
          Formula.read settings filter = .error e) ∧
      (∀ what max, e = .limitExceeded what max → Formula.read settings filter = .error e) ∧
      ((∀ text fault, e ≠ .malformed text fault) → (∀ what max, e ≠ .limitExceeded what max) →
        ∃ f, Formula.read settings filter = .ok f ∧
          ∃ cl ∈ f.clauses, (cl.interpret settings provider).outcome = .error e) := by
  unfold compileFilter at h
  cases hread : Formula.read settings filter with
  | error e' =>
    obtain rfl : e' = e := by simpa [hread, Consult.lift] using h
    rcases Formula.read_eq_error hread with ⟨fault, rfl, hgroup⟩ | ⟨what, max, rfl⟩
    · refine ⟨rfl, ?_, fun _ _ _ => rfl, fun hne => absurd rfl (hne filter fault)⟩
      rintro _ _ ⟨⟩
      exact ⟨rfl, fun hreason => hgroup (SyntaxFault.reason_eq_emptyGroup_iff.mp hreason), rfl⟩
    · exact ⟨rfl, by simp, fun _ _ _ => rfl, fun _ hne => absurd rfl (hne what max)⟩
  | ok f =>
    rw [hread] at h
    rcases Formula.exists_clause_of_compile (Formula.wellFormed_of_read hread) h with
      ⟨cl, hmem, hcl⟩
    rcases (Clause.fails_of_interpret hcl).kind with ⟨huser, hmalformed, hlimit⟩
    exact ⟨huser, fun text fault he => absurd he (hmalformed text fault),
      fun what max he => absurd he (hlimit what max), fun _ _ => ⟨f, rfl, cl, hmem, hcl⟩⟩

/-- An empty segment behind a comparison is the failure of its clause; a parenthesis that is
not closed and one that is too deep are those of the reader. -/
theorem compileFilter_failure_kinds :
    (∃ f, Formula.read { maxDepth := some 1 } "a=1 or (ansible_facts____os=2 and search=x)" =
        .ok f ∧
      ∃ cl ∈ f.clauses, (cl.interpret { maxDepth := some 1 } fun _ => none).outcome =
        .error (.emptySegment "ansible_facts____os")) ∧
      Formula.read { maxDepth := some 1 } "(a=1 and search=x" =
        .error (.malformed "(a=1 and search=x" (.unclosed 0)) ∧
      Formula.read { maxDepth := some 1 } "((search=x))" = .error (.limitExceeded .nesting 1) := by
  have hsegment : (compileFilter { maxDepth := some 1 } (fun _ => none)
      "a=1 or (ansible_facts____os=2 and search=x)").outcome =
        .error (.emptySegment "ansible_facts____os") := by
    cbv
  have hunclosed : (compileFilter { maxDepth := some 1 } (fun _ => none)
      "(a=1 and search=x").outcome = .error (.malformed "(a=1 and search=x" (.unclosed 0)) := by
    cbv
  have hdeep : (compileFilter { maxDepth := some 1 } (fun _ => none) "((search=x))").outcome =
      .error (.limitExceeded .nesting 1) := by
    cbv
  rcases compileFilter_failure _ _ _ _ hsegment with ⟨-, -, -, hclause⟩
  rcases compileFilter_failure _ _ _ _ hunclosed with ⟨-, hmalformed, -, -⟩
  rcases compileFilter_failure _ _ _ _ hdeep with ⟨-, -, hlimit, -⟩
  exact ⟨hclause (by simp) (by simp), (hmalformed _ _ rfl).2.2, hlimit _ _ rfl⟩

end HostFilter
