import HostFilter.Proofs.Compilation.Sequence
import HostFilter.Proofs.Formula.Parsing
import HostFilter.Proofs.Token.Scanning

/-!
# Joining filters as texts

Two filters with a keyword between them are a filter again.  The text is cut at the seams
as the two filters alone would be, since blanks stand around the keyword.  Of `or` chains
the operands follow each other in one longer chain, so the tree of the whole is not made
of the two trees; only its condition is made of the two conditions.  Parentheses keep the
two trees whole, and then either connective may stand between them.

Main results:

- Theorem `Token.lexes_append_keyword`: the lexemes of two texts with a keyword between
  them.
- Theorem `Formula.Derives.append_keyword`: two chains with the keyword of their connective
  between them are a chain.
- Theorem `compileFilter_append_or`: two filters with `or` between them stand for the two
  conditions joined.
- Theorem `Formula.Derives.parens_keyword_parens`: two formulas in parentheses with a
  keyword between them are the group of the two.
- Theorem `compileFilter_parens_keyword_parens`: two filters in parentheses with a keyword
  between them stand for the two conditions joined.
-/

namespace HostFilter

namespace Token

/-- The lexemes of two texts with a keyword between them are those of the texts with the
keyword between them. -/
theorem lexes_append_keyword {cs ds : List Char} {ls ms : List Lexeme} (hcs : Lexes cs ls)
    (hds : Lexes ds ms) (op : Connective) :
    Lexes (cs ++ ' ' :: (op.keyword.toList ++ ' ' :: ds)) (ls ++ .keyword op :: ms) := by
  have hblank : Text.isBlank ' ' = true := by decide
  have hseam : ∀ (es : List Char), ∀ c ∈ (' ' :: es).head?, isBare c = false := by
    intro es c hc
    obtain rfl : ' ' = c := by simpa using hc
    exact isBare_of_isBlank hblank
  have hkeyword : (Lexeme.keyword op).WellFormed := trivial
  have hright : Lexes (op.keyword.toList ++ ' ' :: ds) (.keyword op :: ms) :=
    (hds.blank hblank).written hkeyword fun _ => hseam ds
  exact hcs.append (hright.blank hblank) (hseam _)

/-- The empty text has no lexemes. -/
theorem lexes_nil : Lexes [] [] :=
  fun offset => ⟨[], by rw [scanFrom], rfl⟩

/-- A text in parentheses has its own lexemes in parentheses. -/
theorem lexes_parens {cs : List Char} {ls : List Lexeme} (h : Lexes cs ls) :
    Lexes ('(' :: cs ++ [')']) (.opening :: ls ++ [.closing]) := by
  have hopening : Lexeme.opening.WellFormed := trivial
  have hclosing : Lexeme.closing.WellFormed := trivial
  have hright : Lexes [')'] [.closing] :=
    lexes_nil.written hclosing (by simp [Lexeme.isUnquoted])
  have hinner : Lexes (cs ++ [')']) (ls ++ [.closing]) :=
    h.append hright (by simp [isBare])
  exact hinner.written hopening (by simp [Lexeme.isUnquoted])

end Token

namespace Formula

/-- Two chains with the keyword of their connective between them are the chain of the
operands of both. -/
theorem Derives.append_keyword {op : Connective} {ls ls' : List Lexeme} {f g : Formula}
    (hf : Derives (.chain op) ls f) (hg : Derives (.chain op) ls' g) :
    ∃ f₁ fs g₁ gs, f = chained op f₁ fs ∧ g = chained op g₁ gs ∧
      Derives (.chain op) (ls ++ .keyword op :: ls') (chained op f₁ (fs ++ g₁ :: gs)) := by
  rcases hf.exists_operands with ⟨p, ps, hp, hps, rfl, rfl⟩
  rcases hg.exists_operands with ⟨q, qs, hq, hqs, rfl, rfl⟩
  refine ⟨p.2, ps.map Prod.snd, q.2, qs.map Prod.snd, rfl, rfl, ?_⟩
  have hall : ∀ r ∈ ps ++ q :: qs, Derives op.operandTier r.1 r.2 := by
    intro r hr
    rcases List.mem_append.mp hr with hr | hr
    · exact hps r hr
    · rcases List.mem_cons.mp hr with rfl | hr
      · exact hq
      · exact hqs r hr
  simpa using Derives.of_operands hp hall

/-- What stands between keywords is an operand of either connective. -/
theorem Derives.operand {ls : List Lexeme} {f : Formula} (h : Derives .primary ls f)
    (op : Connective) : Derives op.operandTier ls f := by
  cases op with
  | and => exact h
  | or => exact .single h

/-- A chain of either connective is an `or` chain. -/
theorem Derives.filter {op : Connective} {ls : List Lexeme} {f : Formula}
    (h : Derives (.chain op) ls f) : Derives (.chain .or) ls f := by
  cases op with
  | and => exact .single h
  | or => exact h

/-- Two formulas in parentheses with a keyword between them are the group of the two,
whatever chains they are themselves. -/
theorem Derives.parens_keyword_parens {ls ls' : List Lexeme} {f g : Formula}
    (hf : Derives (.chain .or) ls f) (hg : Derives (.chain .or) ls' g) (op : Connective) :
    Derives (.chain .or)
      ((.opening :: ls ++ [.closing]) ++ .keyword op :: (.opening :: ls' ++ [.closing]))
      (.group op [f, g]) := by
  have hleft : Derives op.operandTier (.opening :: ls ++ [.closing]) f := hf.parens.operand op
  have hright : Derives op.operandTier (.opening :: ls' ++ [.closing]) g := hg.parens.operand op
  have hchain := @Derives.of_operands op (_, f) [(_, g)] hleft
    (List.forall_mem_singleton.mpr hright)
  simpa [Formula.chained] using hchain.filter

/-- A text with the lexemes of a chain is accepted as what the chain spells. -/
theorem parse_of_lexes {text : String} {ls : List Lexeme} {f : Formula}
    (hlexes : Token.Lexes text.toList ls) (hf : Derives (.chain .or) ls f) :
    parse none text = .ok f := by
  rcases hlexes 0 with ⟨tokens, hscan, rfl⟩
  exact parse_eq_ok_iff.mpr ⟨tokens, hscan, ofTokens_eq_ok_iff.mpr hf⟩

/-- An accepted text has the lexemes of a chain that spells what it is accepted as. -/
theorem exists_lexes_of_parse {text : String} {f : Formula} (h : parse none text = .ok f) :
    ∃ ls, Token.Lexes text.toList ls ∧ Derives (.chain .or) ls f := by
  rcases parse_eq_ok_iff.mp h with ⟨tokens, hscan, hf⟩
  exact ⟨_, Token.lexes_of_scanFrom hscan, ofTokens_eq_ok_iff.mp hf⟩

end Formula

/-- Without limits a filter is compiled as what it is accepted as. -/
theorem compileFilter_of_parse {settings : Settings} {provider : Provider} {filter : String}
    {f : Formula} (hlength : settings.maxLength = none) (hdepth : settings.maxDepth = none)
    (h : Formula.parse none filter = .ok f) :
    compileFilter settings provider filter = f.compile settings provider := by
  simp [compileFilter, Formula.read, hlength, hdepth, h]

/-- Two conditions that are asked for one after the other and joined: the first failure of
the two is that of the join. -/
theorem Consult.outcome_andThen_combine (op : Connective) (x y : Consult Condition) :
    (x.andThen fun c => y.andThen fun d => .lift (.ok (Condition.combine op c d))).outcome =
      match x.outcome, y.outcome with
      | .ok c, .ok d => .ok (Condition.combine op c d)
      | .error e, _ => .error e
      | .ok _, .error e => .error e := by
  cases hx : x.outcome with
  | error e => simp [andThen, hx]
  | ok c =>
    cases hy : y.outcome with
    | error e => simp [andThen, hx, hy]
    | ok d => simp [andThen, lift, hx, hy]

/-- Two filters with `or` between them, without parentheses, stand for the two conditions
joined; the first failure of the two is that of the whole. -/
theorem compileFilter_append_or (settings : Settings) (provider : Provider) (f g : String)
    (hlength : settings.maxLength = none) (hdepth : settings.maxDepth = none)
    (hf : ∃ f', Formula.parse none f = .ok f') (hg : ∃ g', Formula.parse none g = .ok g') :
    (compileFilter settings provider (f ++ " or " ++ g)).outcome =
      match (compileFilter settings provider f).outcome,
        (compileFilter settings provider g).outcome with
      | .ok c, .ok d => .ok (Condition.combine .or c d)
      | .error e, _ => .error e
      | .ok _, .error e => .error e := by
  rcases hf with ⟨f', hf⟩
  rcases hg with ⟨g', hg⟩
  rcases Formula.exists_lexes_of_parse hf with ⟨ls, hls, hderivesf⟩
  rcases Formula.exists_lexes_of_parse hg with ⟨ms, hms, hderivesg⟩
  rcases hderivesf.append_keyword hderivesg with ⟨f₁, fs, g₁, gs, rfl, rfl, hjoined⟩
  have hlexes := Token.lexes_append_keyword hls hms .or
  have hparse : Formula.parse none (f ++ " or " ++ g) =
      .ok (Formula.chained .or f₁ (fs ++ g₁ :: gs)) :=
    Formula.parse_of_lexes (by simpa [Connective.keyword] using hlexes) hjoined
  rw [compileFilter_of_parse hlength hdepth hparse, compileFilter_of_parse hlength hdepth hf,
    compileFilter_of_parse hlength hdepth hg, Formula.compile_chained_append,
    Consult.outcome_andThen_combine]

/-- The `and` in front and the parentheses behind stay what they are, and the `or` within
the parentheses is squashed into the one between the filters. -/
theorem compileFilter_append_or_squashed :
    (compileFilter {} (fun _ => none) ("a=1 and b=2" ++ " or " ++ "(c=x or and=or)")).outcome =
      .ok (.join .or [.join .and [.field ⟨"a", .exact, .int 1⟩, .field ⟨"b", .exact, .int 2⟩],
        .field ⟨"c", .exact, .text "x"⟩, .field ⟨"and", .exact, .text "or"⟩]) := by
  have hf : ∃ f, Formula.parse none "a=1 and b=2" = .ok f := by
    refine ⟨.group .and [.clause ⟨.bare "a", .bare "1"⟩, .clause ⟨.bare "b", .bare "2"⟩], ?_⟩
    cbv
  have hg : ∃ g, Formula.parse none "(c=x or and=or)" = .ok g := by
    refine ⟨.group .or [.clause ⟨.bare "c", .bare "x"⟩, .clause ⟨.bare "and", .bare "or"⟩], ?_⟩
    cbv
  rw [compileFilter_append_or {} (fun _ => none) _ _ rfl rfl hf hg]
  cbv

/-- Two filters in parentheses with a keyword between them are the group of their formulas
and stand for the two conditions joined by its connective; the first failure of the two is
that of the whole. -/
theorem compileFilter_parens_keyword_parens (settings : Settings) (provider : Provider)
    (op : Connective) (f g : String) (f' g' : Formula) (hlength : settings.maxLength = none)
    (hdepth : settings.maxDepth = none) (hf : Formula.parse none f = .ok f')
    (hg : Formula.parse none g = .ok g') :
    Formula.parse none ("(" ++ f ++ ") " ++ op.keyword ++ " (" ++ g ++ ")") =
        .ok (.group op [f', g']) ∧
      (compileFilter settings provider
          ("(" ++ f ++ ") " ++ op.keyword ++ " (" ++ g ++ ")")).outcome =
        match (compileFilter settings provider f).outcome,
          (compileFilter settings provider g).outcome with
        | .ok c, .ok d => .ok (Condition.combine op c d)
        | .error e, _ => .error e
        | .ok _, .error e => .error e := by
  rcases Formula.exists_lexes_of_parse hf with ⟨ls, hls, hderivesf⟩
  rcases Formula.exists_lexes_of_parse hg with ⟨ms, hms, hderivesg⟩
  have hlexes := Token.lexes_append_keyword (Token.lexes_parens hls) (Token.lexes_parens hms) op
  have hparse : Formula.parse none ("(" ++ f ++ ") " ++ op.keyword ++ " (" ++ g ++ ")") =
      .ok (.group op [f', g']) :=
    Formula.parse_of_lexes (by simpa using hlexes) (hderivesf.parens_keyword_parens hderivesg op)
  refine ⟨hparse, ?_⟩
  have hcompile := @Formula.compile_chained_append settings provider op f' g' [] []
  rw [compileFilter_of_parse hlength hdepth hparse, compileFilter_of_parse hlength hdepth hf,
    compileFilter_of_parse hlength hdepth hg, ← Consult.outcome_andThen_combine]
  exact congrArg Consult.outcome hcompile

/-- Parentheses keep the `or` chain in front together, a parenthesis in quotes closes
nothing, and of two failures the first is reported. -/
theorem compileFilter_parens_keyword_parens_failing :
    Formula.parse none
          ("(" ++ "a=\")\" or group__search=2" ++ ") " ++ "and" ++ " (" ++ "search=x" ++ ")") =
        .ok (.group .and [.group .or [.clause ⟨.bare "a", ⟨")", true⟩⟩,
          .clause ⟨.bare "group__search", .bare "2"⟩], .clause ⟨.bare "search", .bare "x"⟩]) ∧
      (compileFilter {} (fun _ => none)
          ("(" ++ "a=\")\" or group__search=2" ++ ") " ++ "and" ++ " (" ++ "search=x" ++
            ")")).outcome =
        .error (.unknownRelation "group") := by
  have hf : Formula.parse none "a=\")\" or group__search=2" = .ok (.group .or
      [.clause ⟨.bare "a", ⟨")", true⟩⟩, .clause ⟨.bare "group__search", .bare "2"⟩]) := by
    cbv
  have hg : Formula.parse none "search=x" = .ok (.clause ⟨.bare "search", .bare "x"⟩) := by
    cbv
  have h := compileFilter_parens_keyword_parens {} (fun _ => none) .and _ _ _ _ rfl rfl hf hg
  refine ⟨h.1, h.2.trans ?_⟩
  cbv

end HostFilter
