import HostFilter.Proofs.Compilation.Leaves
import HostFilter.Proofs.Compilation.Order

/-!
# Quotes that matter

Quotes keep a word together while a filter is cut into tokens.  Once it is read they matter in
one place: a quoted `null` below the fact document keeps its quotes, and the bare word does
not.  So formulas that differ only in quotes compile alike if they agree there.  If they do
not, one compiles exactly if the other does, and to another condition: the two documents stay
apart through every step of their path and every join around them.

Main results:

- Theorem `Clause.interpret_eq_of_quotes`: clauses that differ in no quotes that matter stand
  for the same.
- Theorem `Clause.Means.not_alike`: clauses that differ in quotes that matter do not.
- Theorem `Formula.compile_eq_of_quotes`: formulas that differ in no quotes that matter compile
  alike.
- Theorem `Formula.compile_under_quotes`: what quotes change in compiling.
-/

namespace HostFilter

/-! ## Clauses that differ in quotes -/

/-- The word without quotes around it. -/
def Word.withoutQuotes (w : Word) : Word :=
  .bare w.text

namespace Clause

/-- The clause with both of its words bare. -/
def withoutQuotes (c : Clause) : Clause :=
  ⟨c.key.withoutQuotes, c.value.withoutQuotes⟩

/-- The clause asks for `null` below the fact document: here the quotes of the value matter. -/
def IsNullFact (settings : Settings) (c : Clause) : Prop :=
  (∃ path, Target.ofKey settings c.key.text = .facts path) ∧ c.value.text = "null"

theorem withoutQuotes_eq_iff {c d : Clause} :
    c.withoutQuotes = d.withoutQuotes ↔ c.key.text = d.key.text ∧ c.value.text = d.value.text := by
  simp [withoutQuotes, Word.withoutQuotes, Word.bare]

end Clause

/-- Only around `null` do quotes matter in a document. -/
theorem Scalar.ofFactWord_eq_of_quotes {w v : Word} (htext : w.text = v.text)
    (hnull : w.text = "null" → w.quoted = v.quoted) : ofFactWord w = ofFactWord v := by
  by_cases h : w.text = "null"
  · simp only [ofFactWord, Word.written, ← htext, hnull h]
  · simp [ofFactWord, ← htext, h]

/-- Quoted and bare, `null` gives two different texts below the fact document. -/
theorem Scalar.quoted_eq_of_alike_null {w v : Word} (hw : w.text = "null") (hv : v.text = "null")
    (h : Alike (ofFactWord w).toJson (ofFactWord v).toJson) : w.quoted = v.quoted := by
  have hjson (u : Word) (hu : u.text = "null") :
      (ofFactWord u).toJson = .str (if u.quoted then "\"null\"" else "null") := by
    rcases u with ⟨text, quoted⟩
    obtain rfl : text = "null" := hu
    cases quoted <;> cbv
  rw [hjson w hw, hjson v hv] at h
  have htexts := Json.eq_of_alike_str h
  revert htexts
  cases w.quoted <;> cases v.quoted <;> decide

/-- Containments that are alike have documents that are alike. -/
theorem FactTest.alike_document {s t : FactTest} (h : Alike (Condition.facts s) (.facts t)) :
    Alike s.document t.document := by
  rcases h with h | h
  · exact .inl (congrArg document (Condition.facts.inj h))
  · have hboth : (s.path == t.path && s.document == t.document) = true := h
    exact .inr (Bool.and_eq_true_iff.mp hboth).2

namespace Clause

variable {settings : Settings} {provider : Provider} {c d : Clause}

/-- Clauses that differ in no quotes that matter stand for the same. -/
theorem interpret_eq_of_quotes (hcd : c.withoutQuotes = d.withoutQuotes)
    (hnull : c.IsNullFact settings → c.value.quoted = d.value.quoted) :
    c.interpret settings provider = d.interpret settings provider := by
  rcases withoutQuotes_eq_iff.mp hcd with ⟨hkey, hvalue⟩
  have hfield : Scalar.ofFieldWord c.value = Scalar.ofFieldWord d.value := by
    rw [Scalar.ofFieldWord, Scalar.ofFieldWord, hvalue]
  unfold interpret
  rw [hfield, ← hkey]
  split
  · rfl
  · rename_i path htarget
    rw [Scalar.ofFactWord_eq_of_quotes hvalue fun htext => hnull ⟨⟨path, htarget⟩, htext⟩]
  · rfl

/-- If one of two clauses that differ only in quotes stands for a condition, so does the
other. -/
theorem Means.exists_of_quotes (hcd : c.withoutQuotes = d.withoutQuotes) {a : Condition}
    (h : Means settings provider c a) : ∃ b, Means settings provider d b := by
  rcases withoutQuotes_eq_iff.mp hcd with ⟨hkey, hvalue⟩
  cases h with
  | field htarget => exact ⟨_, .field (hkey ▸ htarget)⟩
  | facts htarget hsteps => exact ⟨_, .facts (hkey ▸ htarget) (hkey ▸ hsteps)⟩
  | search htarget hfields hne => exact ⟨_, .search (hkey ▸ htarget) hfields hne⟩

/-- Clauses that differ in quotes that matter stand for conditions that are not alike. -/
theorem Means.not_alike (hcd : c.withoutQuotes = d.withoutQuotes) (hnull : c.IsNullFact settings)
    (hquoted : c.value.quoted ≠ d.value.quoted) {a b : Condition}
    (ha : Means settings provider c a) (hb : Means settings provider d b) : ¬ Alike a b := by
  rcases withoutQuotes_eq_iff.mp hcd with ⟨hkey, hvalue⟩
  rcases hnull with ⟨⟨path, hpath⟩, htext⟩
  intro halike
  cases ha with
  | field htarget => rw [hpath] at htarget; cases htarget
  | search htarget => rw [hpath] at htarget; cases htarget
  | @facts path₁ ss htarget hsteps =>
    cases hb with
    | field htarget' => rw [← hkey, hpath] at htarget'; cases htarget'
    | search htarget' => rw [← hkey, hpath] at htarget'; cases htarget'
    | @facts path₂ ss' htarget' hsteps' =>
      -- Both keys are one text, so the two values are wrapped in the same steps.
      rw [← hkey, htarget] at htarget'
      cases htarget'
      rw [← hkey, hsteps] at hsteps'
      cases hsteps'
      have hleaf := FactPath.alike_of_document (FactTest.alike_document halike)
      exact hquoted (Scalar.quoted_eq_of_alike_null htext (hvalue ▸ htext) hleaf)

end Clause

/-! ## Formulas that differ in quotes -/

namespace Formula

mutual

/-- The formula with all words bare. -/
def withoutQuotes : Formula → Formula
  | .clause c => .clause c.withoutQuotes
  | .group op members => .group op (withoutQuotesAll members)

/-- The formulas with all words bare. -/
def withoutQuotesAll : List Formula → List Formula
  | [] => []
  | f :: fs => f.withoutQuotes :: withoutQuotesAll fs

end

@[simp]
theorem withoutQuotesAll_eq_map (fs : List Formula) :
    withoutQuotesAll fs = fs.map withoutQuotes := by
  induction fs with
  | nil => rfl
  | cons f fs ih => simp [withoutQuotesAll, ih]

/-- The clauses of a formula without quotes are its clauses without quotes. -/
theorem clauses_withoutQuotes (f : Formula) :
    f.withoutQuotes.clauses = f.clauses.map Clause.withoutQuotes := by
  induction f with
  | clause c => rfl
  | group op members ih =>
    simp only [withoutQuotes, clauses, clausesAll_eq_flatMap, withoutQuotesAll_eq_map,
      List.flatMap_map, List.map_flatMap]
    exact List.flatMap_congr ih

/-- Formulas that differ only in quotes have clauses that do, one by one. -/
theorem map_clauses_eq {f g : Formula} (h : f.withoutQuotes = g.withoutQuotes) :
    f.clauses.map Clause.withoutQuotes = g.clauses.map Clause.withoutQuotes := by
  rw [← clauses_withoutQuotes, h, clauses_withoutQuotes]

variable {settings : Settings} {provider : Provider}

/-- Clauses in a row agree with others where quotes matter: a value that is `null` below the
fact document is quoted in both rows or in neither. -/
def AgreeOnNull (settings : Settings) (cs ds : List Clause) : Prop :=
  ∀ p ∈ cs.zip ds, p.1.IsNullFact settings → p.1.value.quoted = p.2.value.quoted

/-- Two rows agree exactly if their parts do. -/
theorem agreeOnNull_append {cs cs' ds ds' : List Clause} (hlength : cs.length = ds.length) :
    AgreeOnNull settings (cs ++ cs') (ds ++ ds') ↔
      AgreeOnNull settings cs ds ∧ AgreeOnNull settings cs' ds' := by
  simp only [AgreeOnNull, List.zip_append hlength, List.forall_mem_append]

/-- Lists of formulas that differ in no quotes that matter compile alike, if each of them
does. -/
theorem compileAll_eq_of_quotes {fs gs : List Formula}
    (hall : ∀ f ∈ fs, ∀ g : Formula, f.withoutQuotes = g.withoutQuotes →
      AgreeOnNull settings f.clauses g.clauses →
        f.compile settings provider = g.compile settings provider)
    (h : fs.map withoutQuotes = gs.map withoutQuotes)
    (hagree : AgreeOnNull settings (fs.flatMap clauses) (gs.flatMap clauses)) :
    compileAll settings provider fs = compileAll settings provider gs := by
  induction fs generalizing gs with
  | nil =>
    obtain rfl : gs = [] := by simpa using h.symm
    rfl
  | cons f fs ih =>
    rcases List.map_eq_cons_iff.mp h.symm with ⟨g, gs, rfl, hfg, hrest⟩
    rcases List.forall_mem_cons.mp hall with ⟨hf, hfs⟩
    have hlength : f.clauses.length = g.clauses.length := by
      simpa using congrArg List.length (map_clauses_eq hfg.symm)
    rw [List.flatMap_cons, List.flatMap_cons, agreeOnNull_append hlength] at hagree
    rw [compileAll, compileAll, hf g hfg.symm hagree.1, ih hfs hrest.symm hagree.2]

/-- Formulas that differ in no quotes that matter compile alike. -/
theorem compile_eq_of_quotes {f g : Formula} (h : f.withoutQuotes = g.withoutQuotes)
    (hagree : AgreeOnNull settings f.clauses g.clauses) :
    f.compile settings provider = g.compile settings provider := by
  induction f generalizing g with
  | clause c =>
    cases g with
    | clause d =>
      refine Clause.interpret_eq_of_quotes (Formula.clause.inj h) fun hnull => ?_
      exact hagree (c, d) (by simp [clauses]) hnull
    | group op members => cases h
  | group op members ih =>
    cases g with
    | clause d => cases h
    | group op' members' =>
      simp only [withoutQuotes, withoutQuotesAll_eq_map, Formula.group.injEq] at h
      rcases h with ⟨rfl, hmembers⟩
      rw [clauses, clauses, clausesAll_eq_flatMap, clausesAll_eq_flatMap] at hagree
      have hlength : members.length = members'.length := by
        simpa using congrArg List.length hmembers
      exact compile_group_congr op hlength
        (compileAll_eq_of_quotes (fun f hf g => ih f hf) hmembers hagree)

/-- If one of two well formed formulas that differ only in quotes compiles, so does the
other. -/
theorem exists_compile_of_quotes {f g : Formula} (hg : g.WellFormed)
    (h : f.withoutQuotes = g.withoutQuotes) {c : Condition}
    (hc : (f.compile settings provider).outcome = .ok c) :
    ∃ d, (g.compile settings provider).outcome = .ok d := by
  refine (exists_compile_iff hg).mpr fun cl hcl => ?_
  have hmem : cl.withoutQuotes ∈ f.clauses.map Clause.withoutQuotes := by
    rw [map_clauses_eq h]
    exact List.mem_map_of_mem hcl
  rcases List.mem_map.mp hmem with ⟨cl', hcl', heq⟩
  rcases exists_interpret_of_compile hc cl' hcl' with ⟨a, ha⟩
  rcases (Clause.interpret_eq_ok_iff.mp ha).exists_of_quotes heq with ⟨b, hb⟩
  exact ⟨b, Clause.interpret_eq_ok_iff.mpr hb⟩

end Formula

/-- Related rows, side by side: what belongs to a pair of the first rows is a pair of the
second ones. -/
theorem exists_of_mem_zip {α β γ δ : Type} {R : α → γ → Prop} {S : β → δ → Prop}
    {T : γ → δ → Prop} {xs : List α} {ys : List β} {as : List γ} {bs : List δ}
    (hR : List.Forall₂ R xs as) (hS : List.Forall₂ S ys bs) (hT : List.Forall₂ T as bs)
    {p : α × β} (hp : p ∈ xs.zip ys) : ∃ a b, R p.1 a ∧ S p.2 b ∧ T a b := by
  induction hR generalizing ys bs with
  | nil => simp at hp
  | @cons x a xs as hxa _ ih =>
    cases hT with
    | @cons _ b _ bs hab hT =>
      cases hS with
      | @cons y _ ys _ hyb hS =>
        rcases List.mem_cons.mp hp with rfl | hp
        · exact ⟨a, b, hxa, hyb, hab⟩
        · exact ih hS hT hp

namespace Formula

variable {settings : Settings} {provider : Provider}

/-- Formulas that differ in quotes that matter do not compile to conditions that are alike. -/
theorem not_alike_of_quotes {f g : Formula} (h : f.withoutQuotes = g.withoutQuotes)
    {p : Clause × Clause} (hp : p ∈ f.clauses.zip g.clauses) (hnull : p.1.IsNullFact settings)
    (hquoted : p.1.value.quoted ≠ p.2.value.quoted) {c d : Condition}
    (hc : (f.compile settings provider).outcome = .ok c)
    (hd : (g.compile settings provider).outcome = .ok d) : ¬ Alike c d := by
  intro halike
  have hpair : p.1.withoutQuotes = p.2.withoutQuotes := by
    have hrows : List.Forall₂ (fun cl cl' => cl.withoutQuotes = cl'.withoutQuotes)
        f.clauses g.clauses := by
      rw [← List.forall₂_map_right_iff, ← List.forall₂_map_left_iff, List.forall₂_eq_eq_eq]
      exact map_clauses_eq h
    exact List.forall₂_zip hrows hp
  rcases exists_of_mem_zip (means_leaves_of_compile hc) (means_leaves_of_compile hd)
    (Condition.alike_leaves halike) hp with ⟨a, b, ha, hb, hab⟩
  exact ha.not_alike hpair hnull hquoted hb hab

/-- Of two formulas that differ only in which words are quoted, the second of them that of a
filter: if they agree on the quotes of every `null` below the fact document, they compile to
the same condition or fail with the same error, asking for the same models.  If they disagree
on one and the first compiles, so does the second, and to a condition that is not the same,
neither as it stands nor by `==`. -/
theorem compile_under_quotes (settings : Settings) (provider : Provider) (limit : Option Nat)
    (filter : String) (f g : Formula) (hg : parse limit filter = .ok g)
    (h : f.withoutQuotes = g.withoutQuotes) :
    ((∀ p ∈ f.clauses.zip g.clauses, p.1.IsNullFact settings →
        p.1.value.quoted = p.2.value.quoted) →
      f.compile settings provider = g.compile settings provider) ∧
    ((∃ p ∈ f.clauses.zip g.clauses, p.1.IsNullFact settings ∧
        p.1.value.quoted ≠ p.2.value.quoted) →
      ∀ c, (f.compile settings provider).outcome = .ok c →
        ∃ d, (g.compile settings provider).outcome = .ok d ∧ d ≠ c ∧ (c == d) = false) := by
  constructor
  · intro hagree
    exact compile_eq_of_quotes h hagree
  · rintro ⟨p, hp, hnull, hquoted⟩ c hc
    have hwell : g.WellFormed := wellFormed_of_parse (parse_none_of_ok hg)
    rcases exists_compile_of_quotes hwell h hc with ⟨d, hd⟩
    have hdiffer : ¬ Alike c d := not_alike_of_quotes h hp hnull hquoted hc hd
    refine ⟨d, hd, fun heq => hdiffer (.inl heq.symm), ?_⟩
    exact Bool.eq_false_iff.mpr fun hbeq => hdiffer (.inr hbeq)

/-- The quotes around the key, the number and the `null` of a field are gone in the condition,
those around the `null` of a fact are not. -/
theorem compile_under_quotes_null :
    (Formula.group .or [.clause ⟨.bare "ansible_facts__a", .bare "null"⟩,
        .clause ⟨.bare "b", .bare "null"⟩]).compile {} (fun _ => none) =
      (Formula.group .or [.clause ⟨⟨"ansible_facts__a", true⟩, .bare "null"⟩,
        .clause ⟨.bare "b", ⟨"null", true⟩⟩]).compile {} (fun _ => none) ∧
    ∃ d, ((Formula.group .or [.clause ⟨.bare "ansible_facts__a", ⟨"null", true⟩⟩,
        .clause ⟨.bare "b", .bare "null"⟩]).compile {} (fun _ => none)).outcome = .ok d ∧
      d ≠ .join .or [.facts ⟨"ansible_facts__contains", .obj [("a", .str "null")]⟩,
        .field ⟨"b", .exact, .text "null"⟩] ∧
      (Condition.join .or [.facts ⟨"ansible_facts__contains", .obj [("a", .str "null")]⟩,
        .field ⟨"b", .exact, .text "null"⟩] == d) = false := by
  have htarget : Target.ofKey {} "ansible_facts__a" = .facts "a" := by
    cbv
  have hfield : Target.ofKey {} "b" = .field "b" := by
    cbv
  have hsame : parse none "\"ansible_facts__a\"=null or b=\"null\"" =
      .ok (.group .or [.clause ⟨⟨"ansible_facts__a", true⟩, .bare "null"⟩,
        .clause ⟨.bare "b", ⟨"null", true⟩⟩]) := by
    cbv
  have hother : parse none "ansible_facts__a=\"null\" or b=null" =
      .ok (.group .or [.clause ⟨.bare "ansible_facts__a", ⟨"null", true⟩⟩,
        .clause ⟨.bare "b", .bare "null"⟩]) := by
    cbv
  constructor
  · refine (compile_under_quotes {} _ none _ (.group .or
      [.clause ⟨.bare "ansible_facts__a", .bare "null"⟩, .clause ⟨.bare "b", .bare "null"⟩]) _
        hsame rfl).1 ?_
    simp [clauses, clausesAll, Clause.IsNullFact, hfield, Word.bare]
  · refine (compile_under_quotes {} _ none _ (.group .or
      [.clause ⟨.bare "ansible_facts__a", .bare "null"⟩, .clause ⟨.bare "b", .bare "null"⟩]) _
        hother rfl).2 ?_ _ (by cbv)
    simp [clauses, clausesAll, Clause.IsNullFact, htarget, Word.bare]

end Formula
end HostFilter
