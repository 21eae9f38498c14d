import HostFilter.Proofs.Condition.Normal
import HostFilter.Proofs.Decimal.Numerals
import HostFilter.Proofs.Formula.RoundTrip

/-!
# Writing a condition as a filter

A condition over comparisons of fields can be written as a filter: every path and value in
quotes, every join in parentheses with its keyword between the members.  If the condition is
normal and its comparisons are such as a filter can spell, the filter compiles back to it:
the quotes keep a path or a text together, whatever stands in it, values come out of their
texts as they went in, and the members of a join come out as its members, since none of them
is spliced.

Main results:

- Theorem `Condition.foldl_combine_join`: joining conditions onto a join appends what they
  contribute.
- Theorem `Scalar.IsPlain.exists_plainText?`: a plain scalar has a text, which spells it.
- Theorem `Condition.Normal.exists_spelledBy`: the text of a plain normal condition is that of a
  formula that compiles to it.
- Theorem `compileFilter_source?`: the text of a plain normal condition compiles back to it.
-/

namespace HostFilter

/-! ## Texts of scalars -/

namespace Scalar

/-- The text of a scalar without quotes.  Doubles are left out. -/
def plainText? : Scalar → Option String
  | .bool true => some "true"
  | .bool false => some "false"
  | .int i => some (String.ofList (Decimal.integerText i))
  | .float _ => none
  | .text s => some s

/-- A scalar that a filter can spell in quotes: a boolean, an integer of 64 bits, or a text
without quotes in it that does not spell another scalar. -/
def IsPlain : Scalar → Prop
  | .bool _ => True
  | .int i => Decimal.fitsWord i = true
  | .float _ => False
  | .text s => '"' ∉ s.toList ∧ ofText s = .text s

/-- A numeral has no quotes in it. -/
theorem quote_not_mem_integerText (i : Int) : '"' ∉ Decimal.integerText i :=
  fun h => absurd (Decimal.isDigit_or_minus_of_mem_integerText h) (by decide)

/-- A plain scalar has a text without quotes, which spells it. -/
theorem IsPlain.exists_plainText? {x : Scalar} (hx : x.IsPlain) :
    ∃ text, x.plainText? = some text ∧ '"' ∉ text.toList ∧ ofText text = x := by
  match x with
  | .bool true => exact ⟨"true", rfl, by decide, rfl⟩
  | .bool false => exact ⟨"false", rfl, by decide, rfl⟩
  | .int i =>
    refine ⟨_, rfl, ?_, ofText_integerText hx⟩
    rw [String.toList_ofList]
    exact quote_not_mem_integerText i
  | .text s => exact ⟨s, rfl, hx⟩

end Scalar

/-! ## Texts of conditions -/

/-- Comparisons that a filter can spell: for equality, of a field whose path can stand in
quotes as a key of its own, with a plain value. -/
def LeafRule.plain (settings : Settings) : LeafRule where
  field test := test.lookup = .exact ∧ test.path ≠ "" ∧ '"' ∉ test.path.toList ∧
    Target.ofKey settings test.path = .field test.path ∧ test.value.IsPlain
  facts _ := False
  search _ := False

/-- A comparison as a filter writes it, with both sides in quotes. -/
def FieldTest.source? (test : FieldTest) : Option String :=
  match test.lookup with
  | .exact => test.value.plainText?.map fun value => "\"" ++ test.path ++ "\"=\"" ++ value ++ "\""
  | .contains => none

namespace Condition

mutual

/-- A condition over comparisons as a filter writes it, with each join in parentheses. -/
def source? : Condition → Option String
  | .field test => test.source?
  | .facts _ => none
  | .search _ => none
  | .join op members =>
    (sources? members).map fun parts => "(" ++ (" " ++ op.keyword ++ " ").intercalate parts ++ ")"

/-- The texts of a list of conditions, if all of them have one. -/
def sources? : List Condition → Option (List String)
  | [] => some []
  | c :: cs =>
    match c.source?, sources? cs with
    | some part, some parts => some (part :: parts)
    | _, _ => none

end

/-! ## Joins of members that are not spliced -/

/-- Joining conditions onto a join appends what they contribute. -/
theorem foldl_combine_join (op : Connective) (members cs : List Condition) :
    cs.foldl (combine op) (.join op members) =
      .join op (members ++ cs.flatMap (operands op)) := by
  induction cs generalizing members with
  | nil => simp
  | cons c cs ih =>
    have hstep : combine op (.join op members) c = .join op (members ++ c.operands op) := by
      simp [combine, operands]
    rw [List.foldl_cons, hstep, ih, List.flatMap_cons, List.append_assoc]

/-- Two or more conditions that are no joins by `op` are joined as they are. -/
theorem foldl_combine_of_flat {op : Connective} {c d : Condition} {cs : List Condition}
    (hflat : ∀ inner, .join op inner ∉ c :: d :: cs) :
    (d :: cs).foldl (combine op) c = .join op (c :: d :: cs) := by
  have hoperands : ∀ e ∈ c :: d :: cs, e.operands op = [e] := by
    intro e he
    refine operands_of_ne fun inner heq => hflat inner ?_
    rw [heq]
    exact he
  have hrest : cs.flatMap (operands op) = cs := by
    rw [List.flatMap_congr fun e he => hoperands e (by simp [he]), List.flatMap_singleton']
  rw [List.foldl_cons, combine, foldl_combine_join, hoperands c (by simp), hoperands d (by simp),
    hrest]
  rfl

end Condition

/-! ## The formula of a condition -/

namespace Formula

/-- The text of a comparison of two quoted words. -/
theorem source_clause (path value : String) :
    source (.clause ⟨⟨path, true⟩, ⟨value, true⟩⟩) =
      "\"" ++ path ++ "\"=\"" ++ value ++ "\"" := by
  apply String.toList_injective
  simp [source, renderWith, Word.written]

/-- The text of a group is made of the texts of its members. -/
theorem source_group (op : Connective) (members : List Formula) :
    source (.group op members) =
      "(" ++ (" " ++ op.keyword ++ " ").intercalate (members.map source) ++ ")" := by
  apply String.toList_injective
  simp [source, renderWith, String.toList_intercalate, Function.comp_def]

end Formula

namespace Condition

variable {settings : Settings} {provider : Provider}

/-- A formula that spells a condition: it is written as the condition is and compiles to it. -/
structure SpelledBy (settings : Settings) (provider : Provider) (c : Condition) (f : Formula) :
    Prop where
  wellFormed : f.WellFormed
  source : c.source? = some f.source
  compile : f.compile settings provider = .lift (.ok c)

/-- A plain comparison is spelled by a clause of quoted words. -/
theorem exists_spelledBy_field {test : FieldTest} (h : (LeafRule.plain settings).field test) :
    ∃ f, SpelledBy settings provider (.field test) f := by
  rcases test with ⟨path, lookup, value⟩
  rcases h with ⟨rfl, hne, hquote, htarget, hvalue⟩
  rcases hvalue.exists_plainText? with ⟨text, htext, htextquote, hspells⟩
  refine ⟨.clause ⟨⟨path, true⟩, ⟨text, true⟩⟩, ?_, ?_, ?_⟩
  · exact .clause hne hquote htextquote
  · simp only [source?, FieldTest.source?] at htext ⊢
    rw [htext, Formula.source_clause]
    rfl
  · rw [Formula.compile, Clause.interpret, htarget, Scalar.ofFieldWord, hspells]

/-- Conditions that are spelled by formulas one by one are written and compiled as the list
of these. -/
theorem exists_spelledBy_all {cs : List Condition}
    (h : ∀ c ∈ cs, ∃ f, SpelledBy settings provider c f) :
    ∃ fs : List Formula, fs.length = cs.length ∧ (∀ f ∈ fs, f.WellFormed) ∧
      sources? cs = some (fs.map Formula.source) ∧
        Formula.compileAll settings provider fs = .lift (.ok cs) := by
  induction cs with
  | nil => exact ⟨[], rfl, by simp, rfl, rfl⟩
  | cons c cs ih =>
    rcases List.forall_mem_cons.mp h with ⟨⟨f, hf⟩, hcs⟩
    rcases ih hcs with ⟨fs, hlength, hwell, hsources, hcompile⟩
    refine ⟨f :: fs, by simp [hlength], List.forall_mem_cons.mpr ⟨hf.wellFormed, hwell⟩, ?_, ?_⟩
    · rw [sources?, hf.source, hsources]
      rfl
    · rw [Formula.compileAll, hf.compile, hcompile]
      rfl

/-- A plain normal condition is spelled by a formula. -/
theorem Normal.exists_spelledBy {c : Condition} (hc : c.Normal (.plain settings)) :
    ∃ f, SpelledBy settings provider c f := by
  induction hc with
  | field h => exact exists_spelledBy_field h
  | facts h => exact h.elim
  | search h => exact h.elim
  | @join op members htwo hflat _ ih =>
    rcases exists_spelledBy_all ih with ⟨fs, hlength, hwell, hsources, hcompile⟩
    refine ⟨.group op fs, .group (by omega) hwell, ?_, ?_⟩
    · rw [source?, hsources, Formula.source_group]
      rfl
    · match members with
      | c :: d :: cs =>
        rw [Formula.compile, hcompile, Consult.lift_ok_andThen, ← foldl_combine_of_flat hflat]

end Condition

/-- A plain normal condition has a text, and as a filter this text compiles back to the
condition without asking for anything. -/
theorem compileFilter_source? (settings : Settings) (provider : Provider) (c : Condition)
    (hlength : settings.maxLength = none) (hdepth : settings.maxDepth = none)
    (hc : c.Normal (.plain settings)) :
    ∃ text, c.source? = some text ∧
      compileFilter settings provider text = .lift (.ok c) := by
  rcases @Condition.Normal.exists_spelledBy settings provider c hc with ⟨f, hf⟩
  rcases hf.wellFormed.exists_lexes with ⟨ls, hlexes, hderives⟩
  have hparse : Formula.parse none f.source = .ok f :=
    Formula.parse_of_lexes (by simpa [Formula.source] using hlexes) (hderives.operand .or).single
  refine ⟨f.source, hf.source, ?_⟩
  rw [compileFilter_of_parse hlength hdepth hparse, hf.compile]

/-- The least integer of 64 bits, parentheses within quotes, a keyword as a path and an empty
text come back from the filter that they are written in. -/
theorem compileFilter_source?_nested :
    (Condition.join .and [.join .or [.field ⟨"a b", .exact, .int (-9223372036854775808)⟩,
        .field ⟨"and", .exact, .text "(x)"⟩], .field ⟨"e", .exact, .text ""⟩]).source? =
        some "((\"a b\"=\"-9223372036854775808\" or \"and\"=\"(x)\") and \"e\"=\"\")" ∧
      compileFilter {} (fun _ => none)
          "((\"a b\"=\"-9223372036854775808\" or \"and\"=\"(x)\") and \"e\"=\"\")" =
        .lift (.ok (.join .and [.join .or [.field ⟨"a b", .exact, .int (-9223372036854775808)⟩,
          .field ⟨"and", .exact, .text "(x)"⟩], .field ⟨"e", .exact, .text ""⟩])) := by
  have hsource : (Condition.join .and [.join .or
      [.field ⟨"a b", .exact, .int (-9223372036854775808)⟩, .field ⟨"and", .exact, .text "(x)"⟩],
        .field ⟨"e", .exact, .text ""⟩]).source? =
      some "((\"a b\"=\"-9223372036854775808\" or \"and\"=\"(x)\") and \"e\"=\"\")" := by
    cbv
  have hleast : (LeafRule.plain {}).field ⟨"a b", .exact, .int (-9223372036854775808)⟩ :=
    ⟨rfl, by decide, by decide, by cbv, rfl⟩
  have hkeyword : (LeafRule.plain {}).field ⟨"and", .exact, .text "(x)"⟩ :=
    ⟨rfl, by decide, by decide, by cbv, by decide, by cbv⟩
  have hempty : (LeafRule.plain {}).field ⟨"e", .exact, .text ""⟩ :=
    ⟨rfl, by decide, by decide, by cbv, by decide, by cbv⟩
  have hinner : (Condition.join .or [.field ⟨"a b", .exact, .int (-9223372036854775808)⟩,
      .field ⟨"and", .exact, .text "(x)"⟩]).Normal (.plain {}) :=
    .join (by simp) (by simp) (by simp [Condition.Normal.field, hleast, hkeyword])
  have hnormal : (Condition.join .and [.join .or
      [.field ⟨"a b", .exact, .int (-9223372036854775808)⟩, .field ⟨"and", .exact, .text "(x)"⟩],
        .field ⟨"e", .exact, .text ""⟩]).Normal (.plain {}) :=
    .join (by simp) (by simp) (by simp [Condition.Normal.field, hinner, hempty])
  rcases compileFilter_source? {} (fun _ => none) _ rfl rfl hnormal with ⟨text, htext, hcompile⟩
  rw [hsource] at htext
  cases htext
  exact ⟨hsource, hcompile⟩

end HostFilter
