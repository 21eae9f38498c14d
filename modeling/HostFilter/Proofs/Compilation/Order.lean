import HostFilter.Proofs.Compilation.Truth
import HostFilter.Proofs.Formula.Limits
import HostFilter.Proofs.Formula.RoundTrip

/-!
# The order of compiling

A formula is compiled as its clauses are interpreted one after the other, from left to
right and however deep they stand: the first failure ends it, and only the searches up to
there have asked for their models.  Grouping decides how the conditions are joined and
plays no part in this, so the clauses in a row tell everything but the condition.

Main results:

- Theorem `Formula.compile_discard`: up to its condition, compiling a well formed formula
  is interpreting its clauses in a row.
- Theorem `Formula.compile_eq_of_agree`: of a provider nothing matters but what it answers
  for the models that were asked for.
- Theorem `Formula.compile_left_to_right`: when a formula compiles, which failure it
  reports otherwise, and what it asks for in either case.
-/

namespace HostFilter

/-! ## What a clause asks for -/

/-- The models that a clause with this target asks for. -/
def Target.models (settings : Settings) : Target → List String
  | .field _ => []
  | .facts _ => []
  | .search none => [settings.rootModel]
  | .search (some relation) => [relation]

namespace Clause

variable {settings : Settings} {provider : Provider}

/-- The models that a clause asks for. -/
def models (settings : Settings) (c : Clause) : List String :=
  (Target.ofKey settings c.key.text).models settings

/-- Whether it fails or not, a clause asks for what its target says. -/
theorem asked_interpret (c : Clause) :
    (c.interpret settings provider).asked = c.models settings := by
  unfold interpret models
  cases Target.ofKey settings c.key.text with
  | field path => rfl
  | facts path => rfl
  | search relation => cases relation <;> rfl

/-- A clause depends on the provider only by what it answers for the models that the clause
asks for. -/
theorem interpret_eq_of_agree {provider' : Provider} {c : Clause}
    (h : ∀ model ∈ (c.interpret settings provider).asked, provider' model = provider model) :
    c.interpret settings provider' = c.interpret settings provider := by
  unfold interpret at h ⊢
  split at h
  · rfl
  · rfl
  · rename_i relation _
    rw [search, search, h (relation.getD settings.rootModel) (by simp [search, Consult.ask])]

end Clause

/-! ## Consultations without their results -/

namespace Consult

variable {α β : Type}

/-- What was asked and how it ended, without the result. -/
def discard (x : Consult α) : Consult Unit :=
  x.andThen fun _ => .lift (.ok ())

@[simp]
theorem asked_discard (x : Consult α) : x.discard.asked = x.asked := by
  rcases x with ⟨asked, outcome⟩
  cases outcome with
  | error e => rfl
  | ok a => simp [discard, andThen, lift]

theorem outcome_discard_eq_ok_iff {x : Consult α} :
    x.discard.outcome = .ok () ↔ ∃ a, x.outcome = .ok a := by
  simp [discard, outcome_andThen_eq_ok_iff, lift]

theorem outcome_discard_eq_error_iff {x : Consult α} {e : FilterError} :
    x.discard.outcome = .error e ↔ x.outcome = .error e := by
  rcases x with ⟨asked, outcome⟩
  cases outcome with
  | error e' => simp [discard, andThen]
  | ok a => simp [discard, andThen, lift]

/-- To leave out the result of two consultations in a row is to leave out the second one's. -/
theorem discard_andThen (x : Consult α) (f : α → Consult β) :
    (x.andThen f).discard = x.andThen fun a => (f a).discard :=
  andThen_assoc x f _

/-- Everything that the first of two consultations asks for is asked for. -/
theorem asked_subset_andThen (x : Consult α) (f : α → Consult β) :
    x.asked ⊆ (x.andThen f).asked := by
  rcases x with ⟨asked, outcome⟩
  cases outcome with
  | error e => simp [andThen]
  | ok a => simp [andThen]

/-- So is what the second one asks for, if the first one succeeds. -/
theorem asked_subset_andThen_of_ok {x : Consult α} {a : α} (h : x.outcome = .ok a)
    (f : α → Consult β) : (f a).asked ⊆ (x.andThen f).asked := by
  simp [andThen, h]

/-- Only the result of the first of two consultations matters to the second. -/
theorem andThen_congr {x : Consult α} {f g : α → Consult β}
    (h : ∀ a, x.outcome = .ok a → f a = g a) : x.andThen f = x.andThen g := by
  rcases x with ⟨asked, outcome⟩
  cases outcome with
  | error e => rfl
  | ok a => simp [andThen, h a rfl]

/-- If the second of two consultations does not look at the first one's result, that can be
left out as well. -/
theorem andThen_const (x : Consult α) (y : Consult β) :
    (x.andThen fun _ => y) = x.discard.andThen fun _ => y := by
  rw [discard, andThen_assoc]
  rfl

end Consult

/-! ## Clauses in a row -/

namespace Clause

variable {settings : Settings} {provider : Provider}

/-- Interpret clauses one after the other, up to the first failure. -/
def visit (settings : Settings) (provider : Provider) : List Clause → Consult Unit
  | [] => .lift (.ok ())
  | c :: cs => (c.interpret settings provider).andThen fun _ => visit settings provider cs

theorem visit_append (cs ds : List Clause) :
    visit settings provider (cs ++ ds) =
      (visit settings provider cs).andThen fun _ => visit settings provider ds := by
  induction cs with
  | nil => rfl
  | cons c cs ih => rw [List.cons_append, visit, visit, ih, Consult.andThen_assoc]

/-- A row that comes to its end has interpreted every clause and asked for the models of
all. -/
theorem visit_eq_ok {cs : List Clause} (h : (visit settings provider cs).outcome = .ok ()) :
    (∀ c ∈ cs, ∃ d, (c.interpret settings provider).outcome = .ok d) ∧
      (visit settings provider cs).asked = cs.flatMap (models settings) := by
  induction cs with
  | nil => exact ⟨by simp, rfl⟩
  | cons c cs ih =>
    rw [visit, Consult.outcome_andThen_eq_ok_iff] at h
    rcases h with ⟨d, hd, hrest⟩
    rcases ih hrest with ⟨hall, hasked⟩
    refine ⟨List.forall_mem_cons.mpr ⟨⟨d, hd⟩, hall⟩, ?_⟩
    rw [visit, Consult.andThen, hd, List.flatMap_cons, ← hasked, asked_interpret]

/-- A row that fails has come to its first failing clause and asked for the models up to
there. -/
theorem visit_eq_error {cs : List Clause} {e : FilterError}
    (h : (visit settings provider cs).outcome = .error e) :
    ∃ before c after, cs = before ++ c :: after ∧
      (∀ b ∈ before, ∃ d, (b.interpret settings provider).outcome = .ok d) ∧
        (c.interpret settings provider).outcome = .error e ∧
          (visit settings provider cs).asked = (before ++ [c]).flatMap (models settings) := by
  induction cs with
  | nil => cases h
  | cons c cs ih =>
    cases hc : (c.interpret settings provider).outcome with
    | error e' =>
      have he : e' = e := by simpa [visit, Consult.andThen, hc] using h
      refine ⟨[], c, cs, rfl, by simp, he ▸ hc, ?_⟩
      simp [visit, Consult.andThen, hc, asked_interpret]
    | ok d =>
      have hrest : (visit settings provider cs).outcome = .error e := by
        simpa [visit, Consult.andThen, hc] using h
      rcases ih hrest with ⟨before, b, after, rfl, hbefore, hb, hasked⟩
      refine ⟨c :: before, b, after, rfl, List.forall_mem_cons.mpr ⟨⟨d, hc⟩, hbefore⟩, hb, ?_⟩
      simp [visit, Consult.andThen, hc, hasked, asked_interpret]

/-- A row comes to its end exactly if every clause stands for a condition. -/
theorem visit_eq_ok_iff {cs : List Clause} :
    (visit settings provider cs).outcome = .ok () ↔
      ∀ c ∈ cs, ∃ d, (c.interpret settings provider).outcome = .ok d := by
  refine ⟨fun h => (visit_eq_ok h).1, fun hall => ?_⟩
  cases hvisit : (visit settings provider cs).outcome with
  | ok u => rfl
  | error e =>
    rcases visit_eq_error hvisit with ⟨before, c, after, rfl, _, hc, _⟩
    rcases hall c (by simp) with ⟨d, hd⟩
    rw [hc] at hd
    cases hd

end Clause

/-! ## Formulas as their clauses in a row -/

namespace Formula

variable {settings : Settings} {provider : Provider}

/-- What is accepted under a limit is accepted without it, as the same formula. -/
theorem parse_none_of_ok {limit : Option Nat} {filter : String} {f : Formula}
    (h : parse limit filter = .ok f) : parse none filter = .ok f := by
  rcases parse_eq_ok_iff.mp h with ⟨tokens, hscan, hf⟩
  exact parse_eq_ok_iff.mpr ⟨tokens, hscan, ofTokens_none_of_ok hf⟩

/-- Up to their conditions, several formulas compile as all their clauses in a row, if each
of them does. -/
theorem compileAll_discard {fs : List Formula}
    (h : ∀ f ∈ fs, (f.compile settings provider).discard =
      Clause.visit settings provider f.clauses) :
    (compileAll settings provider fs).discard =
      Clause.visit settings provider (fs.flatMap clauses) := by
  induction fs with
  | nil => rfl
  | cons f fs ih =>
    rcases List.forall_mem_cons.mp h with ⟨hf, hfs⟩
    have hrest : (compileAll settings provider (f :: fs)).discard =
        (f.compile settings provider).andThen fun _ => (compileAll settings provider fs).discard := by
      simp only [compileAll, Consult.discard_andThen]
      rfl
    rw [hrest, Consult.andThen_const, hf, ih hfs, List.flatMap_cons, Clause.visit_append]

/-- Up to its condition, a group of members compiles as the list of them. -/
theorem compile_group_discard (op : Connective) (f : Formula) (fs : List Formula) :
    ((Formula.group op (f :: fs)).compile settings provider).discard =
      (compileAll settings provider (f :: fs)).discard := by
  simp only [compile, compileAll, Consult.discard_andThen, Consult.andThen_assoc]
  rfl

/-- Two groups of one connective and size compile alike if the lists of their members do. -/
theorem compile_group_congr (op : Connective) {fs gs : List Formula}
    (hlength : fs.length = gs.length)
    (h : compileAll settings provider fs = compileAll settings provider gs) :
    (Formula.group op fs).compile settings provider =
      (Formula.group op gs).compile settings provider := by
  match fs, gs with
  | [], [] => rfl
  | f :: fs, g :: gs =>
    rw [compile, compile, h]
    -- The text of the group is only reported if there are no members.
    refine Consult.andThen_congr fun cs hcs => ?_
    cases cs with
    | nil => cases compileAll_eq_ok_iff.mp hcs
    | cons c cs => rfl

/-- Up to its condition, a well formed formula compiles as its clauses in a row. -/
theorem compile_discard {f : Formula} (hf : f.WellFormed) :
    (f.compile settings provider).discard = Clause.visit settings provider f.clauses := by
  induction hf with
  | clause => simp only [compile, clauses, Clause.visit, Consult.discard]
  | @group op members htwo _ ih =>
    cases members with
    | nil => simp at htwo
    | cons f fs =>
      rw [compile_group_discard, compileAll_discard ih, clauses, clausesAll_eq_flatMap]

/-- A well formed formula compiles exactly if each of its clauses stands for a condition. -/
theorem exists_compile_iff {f : Formula} (hf : f.WellFormed) :
    (∃ c, (f.compile settings provider).outcome = .ok c) ↔
      ∀ cl ∈ f.clauses, ∃ d, (cl.interpret settings provider).outcome = .ok d := by
  rw [← Consult.outcome_discard_eq_ok_iff, compile_discard hf, Clause.visit_eq_ok_iff]

/-! ## What compiling depends on -/

/-- Several formulas depend on the provider only by what it answers for the models that they
ask for, if each of them does. -/
theorem compileAll_eq_of_agree {provider' : Provider} {fs : List Formula}
    (hall : ∀ f ∈ fs, (∀ model ∈ (f.compile settings provider).asked,
      provider' model = provider model) →
        f.compile settings provider' = f.compile settings provider)
    (h : ∀ model ∈ (compileAll settings provider fs).asked, provider' model = provider model) :
    compileAll settings provider' fs = compileAll settings provider fs := by
  induction fs with
  | nil => rfl
  | cons f fs ih =>
    rcases List.forall_mem_cons.mp hall with ⟨hf, hfs⟩
    rw [compileAll] at h
    have hagree : ∀ model ∈ (f.compile settings provider).asked, provider' model = provider model :=
      fun model hmodel => h model (Consult.asked_subset_andThen _ _ hmodel)
    rw [compileAll, compileAll, hf hagree]
    -- The formulas behind the first one ask only if it compiles.
    refine Consult.andThen_congr fun c hc => ?_
    rw [ih hfs fun model hmodel => h model (Consult.asked_subset_andThen_of_ok hc _
      (Consult.asked_subset_andThen _ _ hmodel))]

/-- Compiling depends on the provider only by what it answers for the models that were asked
for. -/
theorem compile_eq_of_agree {provider' : Provider} {f : Formula}
    (h : ∀ model ∈ (f.compile settings provider).asked, provider' model = provider model) :
    f.compile settings provider' = f.compile settings provider := by
  induction f with
  | clause c => exact Clause.interpret_eq_of_agree h
  | group op members ih =>
    rw [compile] at h
    rw [compile, compile, compileAll_eq_of_agree ih fun model hmodel =>
      h model (Consult.asked_subset_andThen _ _ hmodel)]

/-- A formula that a filter spells compiles exactly if each of its clauses stands for a
condition, and then asks for the models of all of them in order.  Otherwise it fails as its
first failing clause does and asks for the models up to this clause.  Nothing else is learned
from the provider: one that answers alike for the models that were asked for gives the same
outcome and is asked for the same. -/
theorem compile_left_to_right (settings : Settings) (provider : Provider) (limit : Option Nat)
    (filter : String) (f : Formula) (h : parse limit filter = .ok f) :
    ((∃ c, (f.compile settings provider).outcome = .ok c) ↔
      ∀ cl ∈ f.clauses, ∃ d, (cl.interpret settings provider).outcome = .ok d) ∧
      (∀ c, (f.compile settings provider).outcome = .ok c →
        (f.compile settings provider).asked = f.clauses.flatMap (Clause.models settings)) ∧
      (∀ e, (f.compile settings provider).outcome = .error e →
        ∃ before cl after, f.clauses = before ++ cl :: after ∧
          (∀ b ∈ before, ∃ d, (b.interpret settings provider).outcome = .ok d) ∧
            (cl.interpret settings provider).outcome = .error e ∧
              (f.compile settings provider).asked =
                (before ++ [cl]).flatMap (Clause.models settings)) ∧
      ∀ provider' : Provider, (∀ model ∈ (f.compile settings provider).asked,
        provider' model = provider model) →
          f.compile settings provider' = f.compile settings provider := by
  have hvisit : (f.compile settings provider).discard =
      Clause.visit settings provider f.clauses :=
    compile_discard (wellFormed_of_parse (parse_none_of_ok h))
  refine ⟨?_, ?_, ?_, fun provider' => compile_eq_of_agree⟩
  · rw [← Consult.outcome_discard_eq_ok_iff, hvisit, Clause.visit_eq_ok_iff]
  · intro c hc
    have hok := Consult.outcome_discard_eq_ok_iff.mpr ⟨c, hc⟩
    rw [hvisit] at hok
    rw [← Consult.asked_discard, hvisit]
    exact (Clause.visit_eq_ok hok).2
  · intro e he
    have herror := Consult.outcome_discard_eq_error_iff.mpr he
    rw [hvisit] at herror
    rw [← Consult.asked_discard, hvisit]
    exact Clause.visit_eq_error herror

/-- The relation in the middle group is unknown, so the search behind it is not reached,
and the comparison in front of it asks for nothing.  Hence a provider that knows the model of
the search behind it makes no difference. -/
theorem compile_left_to_right_stops :
    ∃ f, parse (some 1) "search=db and (a=1 or group__search=x) and inventory__search=y" = .ok f ∧
      f.clauses = [⟨.bare "search", .bare "db"⟩, ⟨.bare "a", .bare "1"⟩,
        ⟨.bare "group__search", .bare "x"⟩, ⟨.bare "inventory__search", .bare "y"⟩] ∧
      (f.compile {} fun model => if model = "host" then some ["name"] else none).outcome =
        .error (.unknownRelation "group") ∧
      (∃ before cl after, f.clauses = before ++ cl :: after ∧
        (∀ b ∈ before, ∃ d, (b.interpret {}
          fun model => if model = "host" then some ["name"] else none).outcome = .ok d) ∧
          (cl.interpret {} fun model => if model = "host" then some ["name"] else none).outcome =
            .error (.unknownRelation "group") ∧
            ["host", "group"] = (before ++ [cl]).flatMap (Clause.models {})) ∧
      (f.compile {} fun model => if model = "host" then some ["name"]
          else if model = "inventory" then some ["address"] else none) =
        f.compile {} fun model => if model = "host" then some ["name"] else none := by
  let provider : Provider := fun model => if model = "host" then some ["name"] else none
  let f : Formula := .group .and [.clause ⟨.bare "search", .bare "db"⟩, .group .or
    [.clause ⟨.bare "a", .bare "1"⟩, .clause ⟨.bare "group__search", .bare "x"⟩],
      .clause ⟨.bare "inventory__search", .bare "y"⟩]
  have hparse : parse (some 1)
      "search=db and (a=1 or group__search=x) and inventory__search=y" = .ok f := by
    cbv
  have herror : (f.compile {} provider).outcome = .error (.unknownRelation "group") := by
    cbv
  have hasked : (f.compile {} provider).asked = ["host", "group"] := by
    cbv
  rcases compile_left_to_right {} provider (some 1) _ f hparse with ⟨-, -, hfirst, hagree⟩
  have hstops := hfirst _ herror
  rw [hasked] at hstops
  refine ⟨f, hparse, rfl, herror, hstops, hagree _ ?_⟩
  rw [hasked]
  decide

end Formula
end HostFilter
