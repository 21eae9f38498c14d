import HostFilter.Compilation
import HostFilter.Proofs.Formula.Grammar

/-!
# The parser accepts exactly the grammar

The parser looks one token ahead and never goes back, while `and` and `or` are both
keywords and words.  That this loses nothing rests on where a phrase ends: in front of
the end of the tokens, of a closing parenthesis and of a keyword of a looser chain, no
keyword comes next that the phrase could go on with, so a greedy reader stops exactly
there.  In the other direction every run that succeeds has read a phrase, whatever the
limit on nesting.

Main results:

- Theorem `parseChain_spells`: what a successful run has read is a phrase of the
  grammar and spells the formula of the run.
- Theorem `Derives.reads`: a phrase in front of its end is read as the formula that it
  spells.
- Theorem `ofTokens_eq_ok_iff`: accepting tokens is deriving their lexemes.
- Theorem `parse_iff_derives`: accepting a text is deriving its lexemes, and no list of
  lexemes has two formulas.
-/

namespace HostFilter

/-! ## Where a phrase ends -/

namespace Tier

/-- The connectives whose keywords a phrase of a tier can go on with. -/
def joints : Tier → List Connective
  | .chain .or => [.and, .or]
  | .chain .and => [.and]
  | .primary => []

/-- No keyword comes next that a phrase of the tier could go on with. -/
def Ends (tier : Tier) (tokens : List Token) : Prop :=
  ∀ t ∈ tokens.head?, ∀ op ∈ tier.joints, t.lexeme ≠ .keyword op

theorem mem_joints_chain (op : Connective) : op ∈ (chain op).joints := by
  cases op <;> simp [joints]

/-- At the end of the tokens every phrase ends. -/
theorem ends_nil (tier : Tier) : tier.Ends [] := by
  simp [Ends]

/-- In front of a closing parenthesis every phrase ends. -/
theorem ends_closing {tier : Tier} {c : Token} {tokens : List Token}
    (hc : c.lexeme = .closing) : tier.Ends (c :: tokens) := by
  simp [Ends, hc]

/-- In front of the keyword of a chain its operands end. -/
theorem ends_keyword {op : Connective} {t : Token} {tokens : List Token}
    (ht : t.lexeme = .keyword op) : op.operandTier.Ends (t :: tokens) := by
  cases op <;> simp [Ends, Connective.operandTier, joints, ht]

/-- Where a chain ends, its last operand ends. -/
theorem Ends.operandTier {op : Connective} {tokens : List Token}
    (h : (chain op).Ends tokens) : op.operandTier.Ends tokens := by
  intro t ht op' hop'
  apply h t ht op'
  cases op with
  | or => exact List.mem_append_left [Connective.or] hop'
  | and => cases hop'

/-- Where the last operand of a chain ends and the keyword does not come next, the chain
ends. -/
theorem Ends.chain {op : Connective} {tokens : List Token} (h : op.operandTier.Ends tokens)
    (hstop : ∀ t ∈ tokens.head?, t.lexeme ≠ .keyword op) : (chain op).Ends tokens := by
  intro t ht op' hop'
  by_cases hop : op' = op
  · rw [hop]
    exact hstop t ht
  · apply h t ht op'
    cases op with
    | or =>
      -- The joints of an `or` chain are those of its operands, and `or`.
      rcases List.mem_append.mp (show op' ∈ [Connective.and] ++ [Connective.or] from hop') with
        hand | hor
      · exact hand
      · exact absurd (List.mem_singleton.mp hor) hop
    | and => exact absurd (List.mem_singleton.mp hop') hop

end Tier

namespace Formula

variable {limit : Option Nat} {depth : Nat} {op : Connective} {tokens : List Token}

/-! ## What a successful run has done -/

/-- A value that was read is one word. -/
theorem parseValue_eq_ok {key : Word} {p : Parsed tokens} (h : parseValue key tokens = .ok p) :
    ∃ (v : Token) (value : Word), tokens = v :: p.rest ∧ v.lexeme.asWord? = some value ∧
      p.formula = .clause ⟨key, value⟩ := by
  unfold parseValue at h
  split at h
  · cases h
  · rename_i t rest
    split at h
    · rename_i value hvalue
      cases h
      exact ⟨t, value, rfl, hvalue, rfl⟩
    · cases h

/-- Behind a key that was read stand an equals sign and a value. -/
theorem parseEquals_eq_ok {key : Word} {p : Parsed tokens}
    (h : parseEquals key tokens = .ok p) :
    ∃ (e v : Token) (value : Word), tokens = e :: v :: p.rest ∧ e.lexeme = .equals ∧
      v.lexeme.asWord? = some value ∧ p.formula = .clause ⟨key, value⟩ := by
  unfold parseEquals at h
  split at h
  · cases h
  · rename_i t rest
    split at h
    · rename_i hequals
      split at h
      · cases h
      · rename_i q hq
        cases h
        rcases parseValue_eq_ok hq with ⟨v, value, hrest, hvalue, hformula⟩
        exact ⟨t, v, value, congrArg (List.cons t) hrest, hequals, hvalue, hformula⟩
    · cases h

/-- A clause that was read is a key, an equals sign and a value. -/
theorem parseClause_eq_ok {p : Parsed tokens} (h : parseClause tokens = .ok p) :
    ∃ (k e v : Token) (key value : Word), tokens = k :: e :: v :: p.rest ∧
      k.lexeme.asWord? = some key ∧ key.text ≠ "" ∧ e.lexeme = .equals ∧
        v.lexeme.asWord? = some value ∧ p.formula = .clause ⟨key, value⟩ := by
  unfold parseClause at h
  split at h
  · cases h
  · rename_i t rest
    split at h
    · cases h
    · rename_i key hkey
      split at h
      · cases h
      · rename_i hne
        split at h
        · cases h
        · rename_i q hq
          cases h
          rcases parseEquals_eq_ok hq with ⟨e, v, value, hrest, hequals, hvalue, hformula⟩
          exact ⟨t, e, v, key, value, congrArg (List.cons t) hrest, hkey, hne, hequals, hvalue,
            hformula⟩

/-- A primary that was read is a chain between parentheses or a clause. -/
theorem parsePrimary_eq_ok {p : Parsed tokens} (h : parsePrimary limit depth tokens = .ok p) :
    (∃ (o c : Token) (rest : List Token) (inner : Parsed rest), tokens = o :: rest ∧
      o.lexeme = .opening ∧ parseChain limit (depth + 1) .or rest = .ok inner ∧
        inner.rest = c :: p.rest ∧ c.lexeme = .closing ∧ p.formula = inner.formula) ∨
      parseClause tokens = .ok p := by
  unfold parsePrimary at h
  split at h
  · exact .inr h
  · rename_i t rest
    split at h
    · rename_i hopening
      split at h
      · cases h
      · split at h
        · cases h
        · rename_i inner hinner
          split at h
          · cases h
          · rename_i close rest' hrest
            split at h
            · rename_i hclosing
              cases h
              exact .inl ⟨t, close, rest, inner, rfl, hopening, hinner, hrest, hclosing, rfl⟩
            · cases h
    · exact .inr h

/-- A chain that was read is its first operand and the operands behind keywords. -/
theorem parseChain_eq_ok {p : Parsed tokens} (h : parseChain limit depth op tokens = .ok p) :
    ∃ (first : Parsed tokens) (others : Operands first.rest),
      parseOperand limit depth op tokens = .ok first ∧
        parseOthers limit depth op first.rest = .ok others ∧
          p.formula = chained op first.formula others.formulas ∧ p.rest = others.rest := by
  unfold parseChain at h
  split at h
  · cases h
  · rename_i first hfirst
    split at h
    · cases h
    · rename_i others hothers
      cases h
      exact ⟨first, others, hfirst, hothers, rfl, rfl⟩

/-- Further operands that were read stop in front of anything but the keyword, and go
on behind the keyword with an operand. -/
theorem parseOthers_eq_ok {o : Operands tokens} (h : parseOthers limit depth op tokens = .ok o) :
    (o.formulas = [] ∧ o.rest = tokens ∧ ∀ t ∈ tokens.head?, t.lexeme ≠ .keyword op) ∨
      ∃ (t : Token) (rest : List Token) (next : Parsed rest) (others : Operands next.rest),
        tokens = t :: rest ∧ t.lexeme = .keyword op ∧
          parseOperand limit depth op rest = .ok next ∧
            parseOthers limit depth op next.rest = .ok others ∧
              o.formulas = next.formula :: others.formulas ∧ o.rest = others.rest := by
  unfold parseOthers at h
  split at h
  · cases h
    exact .inl ⟨rfl, rfl, by simp⟩
  · rename_i t rest
    split at h
    · rename_i hkeyword
      split at h
      · cases h
      · rename_i next hnext
        split at h
        · cases h
        · rename_i others hothers
          cases h
          exact .inr ⟨t, rest, next, others, rfl, hkeyword, hnext, hothers, rfl, rfl⟩
    · rename_i hother
      cases h
      exact .inl ⟨rfl, rfl, by simpa using hother⟩

/-! ## What is accepted is a phrase -/

/-- The tokens in front of `rest` are a phrase of the tier and spell `f`. -/
def Spells (tier : Tier) (tokens rest : List Token) (f : Formula) : Prop :=
  ∃ used, tokens = used ++ rest ∧ Derives tier (used.map Token.lexeme) f

/-- The tokens in front of `rest` are operands of `op`, each behind the keyword, and
spell `fs`. -/
def SpellsOthers (op : Connective) (tokens rest : List Token) (fs : List Formula) : Prop :=
  ∃ (used : List Token) (others : List Phrase), tokens = used ++ rest ∧
    used.map Token.lexeme = joined op others ∧ fs = others.map Prod.snd ∧
      ∀ p ∈ others, Derives op.operandTier p.1 p.2

/-- With nothing behind them, all tokens are the phrase. -/
theorem Spells.derives {tier : Tier} {f : Formula} (h : Spells tier tokens [] f) :
    Derives tier (tokens.map Token.lexeme) f := by
  rcases h with ⟨used, hused, hderives⟩
  rwa [hused, List.append_nil]

/-- A clause that was read is a phrase. -/
theorem parseClause_spells {p : Parsed tokens} (h : parseClause tokens = .ok p) :
    Spells .primary tokens p.rest p.formula := by
  rcases parseClause_eq_ok h with
    ⟨k, e, v, key, value, htokens, hkey, hne, hequals, hvalue, hformula⟩
  refine ⟨[k, e, v], htokens, ?_⟩
  rw [hformula]
  simpa [hequals] using Derives.clause hkey hne hvalue

/-- A formula in parentheses is a phrase if what they enclose is one. -/
theorem Spells.parens {o c : Token} {rest rest' : List Token} {f : Formula}
    (htokens : tokens = o :: rest) (ho : o.lexeme = .opening) (hc : c.lexeme = .closing)
    (h : Spells (.chain .or) rest (c :: rest') f) : Spells .primary tokens rest' f := by
  rcases h with ⟨used, hused, hderives⟩
  refine ⟨o :: used ++ [c], by simp [htokens, hused], ?_⟩
  simpa [ho, hc] using Derives.parens hderives

/-- A first operand and further operands make a chain. -/
theorem Spells.chained {rest rest' : List Token} {f : Formula} {fs : List Formula}
    (hfirst : Spells op.operandTier tokens rest f) (hothers : SpellsOthers op rest rest' fs) :
    Spells (.chain op) tokens rest' (chained op f fs) := by
  rcases hfirst with ⟨used, hused, hderives⟩
  rcases hothers with ⟨used', others, hused', hlexemes, hfs, hall⟩
  refine ⟨used ++ used', by rw [hused, hused', List.append_assoc], ?_⟩
  rw [List.map_append, hlexemes, hfs]
  exact @Derives.of_operands op (used.map Token.lexeme, f) others hderives hall

/-- An operand behind the keyword and further operands are further operands. -/
theorem SpellsOthers.cons {t : Token} {rest rest' rest'' : List Token} {f : Formula}
    {fs : List Formula} (htokens : tokens = t :: rest) (ht : t.lexeme = .keyword op)
    (hnext : Spells op.operandTier rest rest' f) (hothers : SpellsOthers op rest' rest'' fs) :
    SpellsOthers op tokens rest'' (f :: fs) := by
  rcases hnext with ⟨used, hused, hderives⟩
  rcases hothers with ⟨used', others, hused', hlexemes, hfs, hall⟩
  refine ⟨t :: (used ++ used'), (used.map Token.lexeme, f) :: others, ?_, ?_, ?_, ?_⟩
  · rw [htokens, hused, hused', List.cons_append, List.append_assoc]
  · simp [ht, hlexemes]
  · simp [hfs]
  · exact List.forall_mem_cons.mpr ⟨hderives, hall⟩

mutual

/-- A chain that was read is a phrase. -/
theorem parseChain_spells {depth : Nat} {op : Connective} {tokens : List Token}
    {p : Parsed tokens} (h : parseChain limit depth op tokens = .ok p) :
    Spells (.chain op) tokens p.rest p.formula := by
  rcases parseChain_eq_ok h with ⟨first, others, hfirst, hothers, hformula, hrest⟩
  rw [hformula, hrest]
  exact (parseOperand_spells hfirst).chained (parseOthers_spells hothers)
termination_by (tokens.length, match op with | .or => 4 | .and => 2)
decreasing_by
  · cases op <;> simp [Prod.lex_def]
  · simp [Prod.lex_def, first.shorter]

/-- Further operands that were read are phrases behind keywords. -/
theorem parseOthers_spells {depth : Nat} {op : Connective} {tokens : List Token}
    {o : Operands tokens} (h : parseOthers limit depth op tokens = .ok o) :
    SpellsOthers op tokens o.rest o.formulas := by
  rcases parseOthers_eq_ok h with ⟨hformulas, hrest, -⟩ |
    ⟨t, rest, next, others, htokens, ht, hnext, hothers, hformulas, hrest⟩
  · exact ⟨[], [], by simp [hrest], rfl, hformulas, by simp⟩
  · have hshorter : next.rest.length < tokens.length := by
      have := next.shorter
      rw [htokens, List.length_cons]
      omega
    rw [hformulas, hrest]
    exact .cons htokens ht (parseOperand_spells hnext) (parseOthers_spells hothers)
termination_by (tokens.length, 0)
decreasing_by
  · simp [Prod.lex_def, htokens]
  · simp [Prod.lex_def, hshorter]

/-- An operand that was read is a phrase. -/
theorem parseOperand_spells {depth : Nat} {op : Connective} {tokens : List Token}
    {p : Parsed tokens} (h : parseOperand limit depth op tokens = .ok p) :
    Spells op.operandTier tokens p.rest p.formula := by
  match op with
  | .or =>
    rw [parseOperand] at h
    exact parseChain_spells h
  | .and =>
    rw [parseOperand] at h
    exact parsePrimary_spells h
termination_by (tokens.length, match op with | .or => 3 | .and => 1)
decreasing_by
  · simp [Prod.lex_def]
  · simp [Prod.lex_def]

/-- A primary that was read is a phrase. -/
theorem parsePrimary_spells {depth : Nat} {tokens : List Token}
    {p : Parsed tokens} (h : parsePrimary limit depth tokens = .ok p) :
    Spells .primary tokens p.rest p.formula := by
  rcases parsePrimary_eq_ok h with
    ⟨o, c, rest, inner, htokens, ho, hinner, hrest, hc, hformula⟩ | hclause
  · have hspells := parseChain_spells hinner
    rw [hrest] at hspells
    rw [hformula]
    exact hspells.parens htokens ho hc
  · exact parseClause_spells hclause
termination_by (tokens.length, 0)
decreasing_by
  simp [Prod.lex_def, htokens]

end

/-! ## What is a phrase is accepted -/

/-- Read a phrase of a tier. -/
def parseTier (limit : Option Nat) (depth : Nat) (tier : Tier) (tokens : List Token) :
    Except Refusal (Parsed tokens) :=
  match tier with
  | .chain op => parseChain limit depth op tokens
  | .primary => parsePrimary limit depth tokens

/-- An operand is a phrase of the operands' tier. -/
theorem parseOperand_eq (limit : Option Nat) (depth : Nat) (op : Connective)
    (tokens : List Token) :
    parseOperand limit depth op tokens = parseTier limit depth op.operandTier tokens := by
  cases op with
  | or => rw [parseOperand]; rfl
  | and => rw [parseOperand]; rfl

/-- Reading a phrase of the tier off `tokens`, without a limit, gives `f` and leaves `rest`. -/
def Reads (depth : Nat) (tier : Tier) (tokens rest : List Token) (f : Formula) : Prop :=
  ∃ hshorter, parseTier none depth tier tokens = .ok ⟨f, rest, hshorter⟩

/-- A chain is read as its first operand and the operands behind keywords. -/
theorem Reads.chain {rest rest' : List Token} {f : Formula} {fs : List Formula}
    (hfirst : Reads depth op.operandTier tokens rest f)
    (hothers : ∃ hle, parseOthers none depth op rest = .ok ⟨fs, rest', hle⟩) :
    Reads depth (.chain op) tokens rest' (chained op f fs) := by
  rcases hfirst with ⟨hshorter, hfirst⟩
  rcases hothers with ⟨hle, hothers⟩
  refine ⟨Nat.lt_of_le_of_lt hle hshorter, ?_⟩
  rw [parseTier, parseChain, parseOperand_eq, hfirst]
  simp only [hothers]

/-- Further operands stop where the chain ends. -/
theorem parseOthers_of_ends (h : (Tier.chain op).Ends tokens) :
    parseOthers none depth op tokens = .ok ⟨[], tokens, Nat.le_refl _⟩ := by
  cases tokens with
  | nil => rw [parseOthers]
  | cons t rest =>
    have hkeyword : t.lexeme ≠ .keyword op := h t rfl op (Tier.mem_joints_chain op)
    rw [parseOthers, if_neg hkeyword]

/-- Reading goes over an operand behind the keyword to further operands. -/
theorem parseOthers_cons {t : Token} {rest rest' : List Token} {f : Formula}
    {fs : List Formula} (ht : t.lexeme = .keyword op)
    (hnext : Reads depth op.operandTier tokens rest f)
    (hothers : ∃ hle, parseOthers none depth op rest = .ok ⟨fs, rest', hle⟩) :
    ∃ hle, parseOthers none depth op (t :: tokens) = .ok ⟨f :: fs, rest', hle⟩ := by
  rcases hnext with ⟨hshorter, hnext⟩
  rcases hothers with ⟨hle, hothers⟩
  refine ⟨Nat.le_succ_of_le (Nat.le_trans hle (Nat.le_of_lt hshorter)), ?_⟩
  rw [parseOthers, if_pos ht, parseOperand_eq, hnext]
  simp only [hothers]

/-- In front of joined operands and the end of their chain, an operand ends. -/
theorem ends_joined {others : List Phrase} {ts rest : List Token}
    (hts : ts.map Token.lexeme = joined op others) (hends : (Tier.chain op).Ends rest) :
    op.operandTier.Ends (ts ++ rest) := by
  cases others with
  | nil =>
    obtain rfl : ts = [] := by simpa using hts
    exact hends.operandTier
  | cons p ps =>
    rcases List.map_eq_cons_iff.mp (hts.trans (joined_cons op p ps)) with ⟨t, ts', rfl, ht, -⟩
    exact Tier.ends_keyword ht

/-- Joined operands are read one after the other, if each of them is read. -/
theorem parseOthers_joined {others : List Phrase}
    (hoperands : ∀ p ∈ others, ∀ ts rest : List Token, ts.map Token.lexeme = p.1 →
      op.operandTier.Ends rest → Reads depth op.operandTier (ts ++ rest) rest p.2)
    {ts rest : List Token} (hts : ts.map Token.lexeme = joined op others)
    (hends : (Tier.chain op).Ends rest) :
    ∃ hle, parseOthers none depth op (ts ++ rest) = .ok ⟨others.map Prod.snd, rest, hle⟩ := by
  induction others generalizing ts with
  | nil =>
    obtain rfl : ts = [] := by simpa using hts
    exact ⟨Nat.le_refl _, parseOthers_of_ends hends⟩
  | cons p ps ih =>
    rcases List.map_eq_cons_iff.mp (hts.trans (joined_cons op p ps)) with ⟨t, ts', rfl, ht, hts'⟩
    rcases List.map_eq_append_iff.mp hts' with ⟨ts₁, ts₂, rfl, hts₁, hts₂⟩
    have hnext := hoperands p List.mem_cons_self ts₁ (ts₂ ++ rest) hts₁
      (ends_joined hts₂ hends)
    have hothers := ih (fun q hq => hoperands q (List.mem_cons_of_mem p hq)) hts₂
    rw [← List.append_assoc] at hnext
    exact parseOthers_cons ht hnext hothers

/-- Reading goes over an opening parenthesis to the closing one. -/
theorem Reads.parens {o c : Token} {rest : List Token} {f : Formula}
    (ho : o.lexeme = .opening) (hc : c.lexeme = .closing)
    (hinner : Reads (depth + 1) (.chain .or) tokens (c :: rest) f) :
    Reads depth .primary (o :: tokens) rest f := by
  rcases hinner with ⟨hshorter, hinner⟩
  rw [parseTier] at hinner
  refine ⟨?_, ?_⟩
  · simp only [List.length_cons] at hshorter ⊢
    omega
  · rw [parseTier, parsePrimary, if_pos ho]
    simp [exceeded?, hinner, hc]

/-- A key, an equals sign and a value are read as a clause. -/
theorem reads_clause {k e v : Token} {key value : Word} {rest : List Token}
    (hkey : k.lexeme.asWord? = some key) (hne : key.text ≠ "") (he : e.lexeme = .equals)
    (hvalue : v.lexeme.asWord? = some value) :
    Reads depth .primary (k :: e :: v :: rest) rest (.clause ⟨key, value⟩) := by
  have hopening : k.lexeme ≠ .opening := by
    intro h
    rw [h] at hkey
    cases hkey
  refine ⟨by simp; omega, ?_⟩
  rw [parseTier, parsePrimary, if_neg hopening]
  simp [parseClause, parseEquals, parseValue, hkey, hne, he, hvalue]

/-- A phrase is read as the formula that it spells, up to where it ends. -/
theorem Derives.reads {tier : Tier} {ls : List Lexeme} {f : Formula} (h : Derives tier ls f) :
    ∀ (depth : Nat) (ts rest : List Token), ts.map Token.lexeme = ls → tier.Ends rest →
      Reads depth tier (ts ++ rest) rest f := by
  induction h with
  | @clause k v key value hkey hne hvalue =>
    intro depth ts rest hts _
    simp only [List.map_eq_cons_iff, List.map_eq_nil_iff] at hts
    rcases hts with ⟨k, _, rfl, rfl, e, _, rfl, he, v, _, rfl, rfl, rfl⟩
    exact reads_clause hkey hne he hvalue
  | @parens ls f _ ih =>
    intro depth ts rest hts _
    rcases List.map_eq_cons_iff.mp hts with ⟨o, ts', rfl, ho, hts'⟩
    rcases List.map_eq_append_iff.mp hts' with ⟨inner, cs, rfl, hinner, hcs⟩
    obtain ⟨c, rfl, hc⟩ : ∃ c, cs = [c] ∧ c.lexeme = .closing := by
      simpa [List.map_eq_singleton_iff] using hcs
    have hreads := ih (depth + 1) inner (c :: rest) hinner (Tier.ends_closing hc)
    have := Reads.parens ho hc hreads
    simpa using this
  | @single op ls f _ ih =>
    intro depth ts rest hts hends
    have hfirst := ih depth ts rest hts hends.operandTier
    exact hfirst.chain ⟨Nat.le_refl _, parseOthers_of_ends hends⟩
  | @group op first others hothers _ _ ihfirst ihrest =>
    intro depth ts rest hts hends
    -- The first operand ends in front of the keyword of the next one.
    rcases List.map_eq_append_iff.mp hts with ⟨ts₁, ts₂, rfl, hts₁, hts₂⟩
    have hfirst := ihfirst depth ts₁ (ts₂ ++ rest) hts₁ (ends_joined hts₂ hends)
    have hrest := parseOthers_joined (fun p hp => ihrest p hp depth) hts₂ hends
    rw [← List.append_assoc] at hfirst
    cases others with
    | nil => exact absurd rfl hothers
    | cons p ps => exact hfirst.chain hrest

/-- A phrase alone is read to its end. -/
theorem Derives.reads_all {tier : Tier} {f : Formula}
    (h : Derives tier (tokens.map Token.lexeme) f) (depth : Nat) :
    Reads depth tier tokens [] f := by
  have hreads := h.reads depth tokens [] rfl (Tier.ends_nil tier)
  rwa [List.append_nil] at hreads

/-! ## The parser is the grammar -/

/-- Tokens that were accepted were read as a chain with nothing behind it. -/
theorem ofTokens_eq_ok {f : Formula} (h : ofTokens limit tokens = .ok f) :
    ∃ p, parseChain limit 0 .or tokens = .ok p ∧ p.rest = [] ∧ p.formula = f := by
  unfold ofTokens at h
  split at h
  · cases h
  · split at h
    · cases h
    · rename_i p hp
      split at h
      · rename_i hrest
        cases h
        exact ⟨p, hp, hrest, rfl⟩
      · cases h

/-- Tokens are accepted, without a limit, exactly if their lexemes are an `or` chain,
and then as the formula that the chain spells. -/
theorem ofTokens_eq_ok_iff {f : Formula} :
    ofTokens none tokens = .ok f ↔ Derives (.chain .or) (tokens.map Token.lexeme) f := by
  constructor
  · intro h
    rcases ofTokens_eq_ok h with ⟨p, hp, hrest, rfl⟩
    have hspells := parseChain_spells hp
    rw [hrest] at hspells
    exact hspells.derives
  · intro h
    have hne : tokens ≠ [] := fun hnil => h.ne_nil (by rw [hnil, List.map_nil])
    rcases h.reads_all 0 with ⟨hshorter, hreads⟩
    rw [parseTier] at hreads
    simp [ofTokens, hne, hreads]

/-- A text is accepted as a formula exactly if it is cut into tokens that are. -/
theorem parse_eq_ok_iff {filter : String} {f : Formula} :
    parse limit filter = .ok f ↔
      ∃ tokens, Token.scan filter = .ok tokens ∧ ofTokens limit tokens = .ok f := by
  unfold parse
  split
  · simp [*]
  · rename_i tokens hscan
    split <;> simp [*]

/-- No list of lexemes spells two formulas at one tier. -/
theorem Derives.unique {tier : Tier} {ls : List Lexeme} {f g : Formula}
    (hf : Derives tier ls f) (hg : Derives tier ls g) : f = g := by
  -- The parser is a function, so it is enough to run it on any tokens with these lexemes.
  obtain ⟨tokens, rfl⟩ : ∃ tokens : List Token, tokens.map Token.lexeme = ls :=
    ⟨ls.map (⟨·, 0⟩), by simp [Function.comp_def]⟩
  rcases hf.reads_all 0 with ⟨_, hreadsf⟩
  rcases hg.reads_all 0 with ⟨_, hreadsg⟩
  rw [hreadsf] at hreadsg
  cases hreadsg
  rfl

/-- The parser accepts exactly the texts whose lexemes the grammar derives, with the
formula that the grammar assigns, and the grammar assigns no list two formulas. -/
theorem parse_iff_derives :
    (∀ (filter : String) (f : Formula), parse none filter = .ok f ↔
      ∃ tokens, Token.scan filter = .ok tokens ∧
        Derives (.chain .or) (tokens.map Token.lexeme) f) ∧
      ∀ (tier : Tier) (ls : List Lexeme) (f g : Formula),
        Derives tier ls f → Derives tier ls g → f = g := by
  constructor
  · intro filter f
    simp only [parse_eq_ok_iff, ofTokens_eq_ok_iff]
  · intro tier ls f g hf hg
    exact hf.unique hg

/-- In `or=and and (a=1)` the first two keywords are a key and a value, the third joins. -/
theorem parse_iff_derives_keywords :
    Derives (.chain .or)
        [.keyword .or, .equals, .keyword .and, .keyword .and, .opening, .word (.bare "a"), .equals,
          .word (.bare "1"), .closing]
        (.group .and [.clause ⟨.bare "or", .bare "and"⟩, .clause ⟨.bare "a", .bare "1"⟩]) ∧
      ∀ g, Derives (.chain .or)
          [.keyword .or, .equals, .keyword .and, .keyword .and, .opening, .word (.bare "a"),
            .equals, .word (.bare "1"), .closing] g →
        g = .group .and [.clause ⟨.bare "or", .bare "and"⟩, .clause ⟨.bare "a", .bare "1"⟩] := by
  have hleft : Derives .primary [.keyword .or, .equals, .keyword .and]
      (.clause ⟨.bare "or", .bare "and"⟩) := .clause rfl (by decide) rfl
  have hright : Derives .primary [.word (.bare "a"), .equals, .word (.bare "1")]
      (.clause ⟨.bare "a", .bare "1"⟩) := .clause rfl (by decide) rfl
  have hparens : Derives .primary
      [.opening, .word (.bare "a"), .equals, .word (.bare "1"), .closing]
      (.clause ⟨.bare "a", .bare "1"⟩) := .parens (.single (.single hright))
  have hchain := @Derives.of_operands .and (_, _) [(_, _)] hleft
    (List.forall_mem_singleton.mpr hparens)
  exact ⟨.single hchain, fun g hg => parse_iff_derives.2 _ _ _ _ hg (.single hchain)⟩

end Formula
end HostFilter
