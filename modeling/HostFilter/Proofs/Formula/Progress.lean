import HostFilter.Proofs.Formula.Parsing

/-!
# Reading tokens one by one

The parser descends into chains, operands and parentheses, and a refusal comes out of
whatever it has descended into.  Seen from the tokens there is less to know: what has to
come next, and which parentheses are open.  Going through the tokens with this much
refuses the same lists for the same reasons, and going through a list is a plain induction
over it.

Main results:

- Theorem `Move.of_step`: the six ways in which a token is taken.
- Theorem `opened_of_run`: the open parentheses of the progress are those of the tokens
  read.
- Theorem `exists_of_refusal?`: a refusal comes from a token that does not fit or from an
  end that comes too early.
- Theorem `parseChain_refusal?`: the parser refuses what the progress refuses.
- Theorem `ofTokens_eq_error_iff`: tokens are refused exactly for the reason that the
  progress gives.
-/

namespace HostFilter

/-- A lexeme that is a word is none of the other lexemes. -/
theorem Lexeme.not_mem_of_asWord? {l : Lexeme} {w : Word} (h : l.asWord? = some w) :
    l ∉ [.equals, .opening, .closing] := by
  cases l with
  | word w => simp
  | keyword op => simp
  | equals => cases h
  | opening => cases h
  | closing => cases h

namespace Token

/-- The opening parentheses without a partner, innermost first, with one more token. -/
def unmatchedStep (opened : List Token) (t : Token) : List Token :=
  match t.lexeme with
  | .opening => t :: opened
  | .closing => opened.tail
  | _ => opened

/-- The opening parentheses of a list of tokens that have no partner in it, innermost
first. -/
def unmatched (tokens : List Token) : List Token :=
  tokens.foldl unmatchedStep []

/-- A word leaves the unmatched parentheses as they are. -/
theorem unmatchedStep_of_asWord? {t : Token} {w : Word} (h : t.lexeme.asWord? = some w)
    (opened : List Token) : unmatchedStep opened t = opened := by
  have hother := Lexeme.not_mem_of_asWord? h
  unfold unmatchedStep
  split
  · rename_i ht
    simp [ht] at hother
  · rename_i ht
    simp [ht] at hother
  · rfl

end Token

namespace Formula

/-- What has to come next. -/
inductive Expected where
  | operand
  | equals
  | value
  | joint
deriving DecidableEq

/-- How far tokens have been read: what has to come next, and the opening parentheses that
have no partner yet, innermost first. -/
structure Progress where
  expected : Expected
  opened : List Token

namespace Progress

/-- Nothing has been read. -/
def start : Progress :=
  ⟨.operand, []⟩

/-- The progress with one more token, or why the token is refused. -/
def step (limit : Option Nat) (s : Progress) (t : Token) : Except Refusal Progress :=
  match s.expected with
  | .operand =>
    if t.lexeme = .opening then
      match exceeded? limit (s.opened.length + 1) with
      | some max => .error (.tooDeep max)
      | none => .ok ⟨.operand, t :: s.opened⟩
    else
      match t.lexeme.asWord? with
      | none => .error (.fault (.unexpected t))
      | some key =>
        if key.text = "" then .error (.fault (.emptyKey t.offset))
        else .ok ⟨.equals, s.opened⟩
  | .equals =>
    if t.lexeme = .equals then .ok ⟨.value, s.opened⟩ else .error (.fault (.unexpected t))
  | .value =>
    match t.lexeme.asWord? with
    | none => .error (.fault (.unexpected t))
    | some _ => .ok ⟨.joint, s.opened⟩
  | .joint =>
    match t.lexeme, s.opened with
    | .keyword _, opened => .ok ⟨.operand, opened⟩
    | .closing, _ :: outer => .ok ⟨.joint, outer⟩
    | _, _ => .error (.fault (.unexpected t))

/-- The progress with more tokens, or why one of them is refused. -/
def run (limit : Option Nat) (s : Progress) : List Token → Except Refusal Progress
  | [] => .ok s
  | t :: ts =>
    match s.step limit t with
    | .error r => .error r
    | .ok s' => run limit s' ts

/-- The fault of tokens that end here, if they may not. -/
def endFault? (s : Progress) : Option SyntaxFault :=
  match s.expected with
  | .operand => some (.endsBefore .clause)
  | .equals => some (.endsBefore .equals)
  | .value => some (.endsBefore .value)
  | .joint => s.opened.head?.map fun o => .unclosed o.offset

/-- Why the tokens are refused, if they are. -/
def refusal? (limit : Option Nat) (s : Progress) (tokens : List Token) : Option Refusal :=
  match s.run limit tokens with
  | .error r => some r
  | .ok s' => s'.endFault?.map .fault

variable {limit : Option Nat} {s s' : Progress} {t : Token} {r : Refusal}

/-! ## One token -/

/-- The ways in which a token is taken. -/
inductive Move (limit : Option Nat) : Progress → Token → Progress → Prop where
  | opening {opened : List Token} {t : Token} (ht : t.lexeme = .opening)
      (hlimit : exceeded? limit (opened.length + 1) = none) :
      Move limit ⟨.operand, opened⟩ t ⟨.operand, t :: opened⟩
  | key {opened : List Token} {t : Token} {key : Word} (ht : t.lexeme.asWord? = some key)
      (hne : key.text ≠ "") : Move limit ⟨.operand, opened⟩ t ⟨.equals, opened⟩
  | equals {opened : List Token} {t : Token} (ht : t.lexeme = .equals) :
      Move limit ⟨.equals, opened⟩ t ⟨.value, opened⟩
  | value {opened : List Token} {t : Token} {value : Word} (ht : t.lexeme.asWord? = some value) :
      Move limit ⟨.value, opened⟩ t ⟨.joint, opened⟩
  | keyword {opened : List Token} {t : Token} {op : Connective} (ht : t.lexeme = .keyword op) :
      Move limit ⟨.joint, opened⟩ t ⟨.operand, opened⟩
  | closing {o t : Token} {outer : List Token} (ht : t.lexeme = .closing) :
      Move limit ⟨.joint, o :: outer⟩ t ⟨.joint, outer⟩

/-- A token that is taken is taken in one of these ways. -/
theorem Move.of_step (h : s.step limit t = .ok s') : Move limit s t s' := by
  rcases s with ⟨expected, opened⟩
  cases expected with
  | operand =>
    simp only [step] at h
    split at h
    · rename_i hopening
      split at h
      · cases h
      · rename_i hlimit
        cases h
        exact .opening hopening hlimit
    · split at h
      · cases h
      · rename_i key hkey
        split at h
        · cases h
        · rename_i hne
          cases h
          exact .key hkey hne
  | equals =>
    simp only [step] at h
    split at h
    · rename_i hequals
      cases h
      exact .equals hequals
    · cases h
  | value =>
    simp only [step] at h
    split at h
    · cases h
    · rename_i value hvalue
      cases h
      exact .value hvalue
  | joint =>
    simp only [step] at h
    split at h
    · rename_i op hkeyword
      cases h
      exact .keyword hkeyword
    · rename_i o outer hclosing
      cases h
      exact .closing hclosing
    · cases h

/-- A token that can be taken in one of these ways is taken. -/
theorem Move.step (h : Move limit s t s') : s.step limit t = .ok s' := by
  cases h with
  | opening ht hlimit => simp [Progress.step, ht, hlimit]
  | key ht hne =>
    have hopening := Lexeme.not_mem_of_asWord? ht
    simp only [List.mem_cons, not_or] at hopening
    simp [Progress.step, hopening, ht, hne]
  | equals ht => simp [Progress.step, ht]
  | value ht => simp [Progress.step, ht]
  | keyword ht => simp [Progress.step, ht]
  | closing ht => simp [Progress.step, ht]

/-- A token changes the open parentheses as it changes the unmatched ones. -/
theorem Move.opened_eq (h : Move limit s t s') :
    s'.opened = Token.unmatchedStep s.opened t := by
  cases h with
  | opening ht => simp [Token.unmatchedStep, ht]
  | key ht => exact (Token.unmatchedStep_of_asWord? ht _).symm
  | equals ht => simp [Token.unmatchedStep, ht]
  | value ht => exact (Token.unmatchedStep_of_asWord? ht _).symm
  | keyword ht => simp [Token.unmatchedStep, ht]
  | closing ht => simp [Token.unmatchedStep, ht]

/-- Behind a token a value has to come exactly if the token is an equals sign. -/
theorem Move.expected_eq_value_iff (h : Move limit s t s') :
    s'.expected = .value ↔ t.lexeme = .equals := by
  cases h with
  | opening ht => simp [ht]
  | key ht =>
    have hother := Lexeme.not_mem_of_asWord? ht
    simp_all
  | equals ht => simp [ht]
  | value ht =>
    have hother := Lexeme.not_mem_of_asWord? ht
    simp_all
  | keyword ht => simp [ht]
  | closing ht => simp [ht]

/-- Behind a token a keyword or a closing parenthesis has to come exactly if the token is
a closing parenthesis or a value. -/
theorem Move.expected_eq_joint_iff (h : Move limit s t s') :
    s'.expected = .joint ↔
      t.lexeme = .closing ∨ s.expected = .value ∧ ∃ value, t.lexeme.asWord? = some value := by
  cases h with
  | opening ht => simp [ht]
  | key ht =>
    have hother := Lexeme.not_mem_of_asWord? ht
    simp_all
  | equals ht => simp [ht]
  | value ht => simp [ht]
  | keyword ht => simp [ht]
  | closing ht => simp [ht]

/-- A token that is refused without a limit is refused under every limit, for the same
reason, and the reason points at the token. -/
theorem step_eq_error (h : s.step none t = .error r) :
    (r = .fault (.unexpected t) ∨ r = .fault (.emptyKey t.offset)) ∧
      ∀ limit, s.step limit t = .error r := by
  rcases s with ⟨expected, opened⟩
  cases expected with
  | operand =>
    by_cases hopening : t.lexeme = .opening
    · simp [step, hopening, exceeded?] at h
    · simp only [step, hopening, if_false] at h ⊢
      split at h
      · cases h
        exact ⟨.inl rfl, fun _ => rfl⟩
      · split at h
        · cases h
          rename_i key hkey hempty
          exact ⟨.inr rfl, fun _ => by simp [hempty]⟩
        · cases h
  | equals =>
    simp only [step] at h ⊢
    split at h
    · cases h
    · rename_i hequals
      cases h
      exact ⟨.inl rfl, fun _ => if_neg hequals⟩
  | value =>
    simp only [step] at h ⊢
    split at h
    · cases h
      exact ⟨.inl rfl, fun _ => rfl⟩
    · cases h
  | joint =>
    simp only [step] at h ⊢
    split at h
    · cases h
    · cases h
    · cases h
      exact ⟨.inl rfl, fun _ => rfl⟩

/-! ## Many tokens -/

/-- Reading two lists in a row is reading the second from where the first has led. -/
theorem run_append (limit : Option Nat) (s : Progress) (ts us : List Token) :
    s.run limit (ts ++ us) =
      match s.run limit ts with
      | .error r => .error r
      | .ok s' => s'.run limit us := by
  induction ts generalizing s with
  | nil => rfl
  | cons t ts ih =>
    rw [List.cons_append, run, run]
    cases s.step limit t with
    | error r => rfl
    | ok s' => exact ih s'

/-- Tokens are all taken if the first is, and then the others. -/
theorem exists_move_of_run_cons {ts : List Token} (h : s.run limit (t :: ts) = .ok s') :
    ∃ s₁, Move limit s t s₁ ∧ s₁.run limit ts = .ok s' := by
  rw [run] at h
  cases hstep : s.step limit t with
  | error r =>
    rw [hstep] at h
    cases h
  | ok s₁ =>
    rw [hstep] at h
    exact ⟨s₁, Move.of_step hstep, h⟩

/-- Tokens are all taken if those in front of the last one are, and then the last. -/
theorem exists_move_of_run_concat {ts : List Token} (h : s.run limit (ts ++ [t]) = .ok s') :
    ∃ s₁, s.run limit ts = .ok s₁ ∧ Move limit s₁ t s' := by
  rw [run_append] at h
  cases hrun : s.run limit ts with
  | error r =>
    rw [hrun] at h
    cases h
  | ok s₁ =>
    rw [hrun] at h
    rcases exists_move_of_run_cons h with ⟨s₂, hmove, hnil⟩
    cases hnil
    exact ⟨s₁, rfl, hmove⟩

/-- The open parentheses of the progress are the unmatched ones of the tokens read. -/
theorem opened_of_run {ts : List Token} (h : s.run limit ts = .ok s') :
    s'.opened = ts.foldl Token.unmatchedStep s.opened := by
  induction ts generalizing s with
  | nil =>
    cases h
    rfl
  | cons t ts ih =>
    rcases exists_move_of_run_cons h with ⟨s₁, hmove, hrun⟩
    rw [ih hrun, hmove.opened_eq, List.foldl_cons]

/-- Reading that fails does so at a token, behind tokens that were taken. -/
theorem exists_of_run_eq_error {ts : List Token} (h : s.run limit ts = .error r) :
    ∃ (before : List Token) (t : Token) (after : List Token) (s' : Progress),
      ts = before ++ t :: after ∧ s.run limit before = .ok s' ∧ s'.step limit t = .error r := by
  induction ts generalizing s with
  | nil => cases h
  | cons t ts ih =>
    rw [run] at h
    cases hstep : s.step limit t with
    | error r' =>
      rw [hstep] at h
      cases h
      exact ⟨[], t, ts, s, rfl, rfl, hstep⟩
    | ok s₁ =>
      rw [hstep] at h
      rcases ih h with ⟨before, t', after, s', rfl, hrun, hstep'⟩
      refine ⟨t :: before, t', after, s', rfl, ?_, hstep'⟩
      rw [run, hstep]
      exact hrun

/-- Tokens are refused at a token that does not fit, or at their end. -/
theorem exists_of_refusal? {ts : List Token} (h : s.refusal? limit ts = some r) :
    (∃ (before : List Token) (t : Token) (after : List Token) (s' : Progress),
      ts = before ++ t :: after ∧ s.run limit before = .ok s' ∧ s'.step limit t = .error r) ∨
      ∃ (s' : Progress) (fault : SyntaxFault),
        s.run limit ts = .ok s' ∧ s'.endFault? = some fault ∧ r = .fault fault := by
  unfold refusal? at h
  split at h
  · rename_i r' hrun
    cases h
    exact .inl (exists_of_run_eq_error hrun)
  · rename_i s' hrun
    rcases Option.map_eq_some_iff.mp h with ⟨fault, hfault, rfl⟩
    exact .inr ⟨s', fault, hrun, hfault, rfl⟩

/-- Tokens may not end where something is missing, nor inside parentheses. -/
theorem endFault?_eq_some {fault : SyntaxFault} (h : s.endFault? = some fault) :
    (s.expected ≠ .joint ∧ ∃ missing, fault = .endsBefore missing) ∨
      s.expected = .joint ∧ ∃ innermost outer, s.opened = innermost :: outer ∧
        fault = .unclosed innermost.offset := by
  rcases s with ⟨expected, opened⟩
  cases expected with
  | operand =>
    cases h
    exact .inl ⟨by simp, .clause, rfl⟩
  | equals =>
    cases h
    exact .inl ⟨by simp, .equals, rfl⟩
  | value =>
    cases h
    exact .inl ⟨by simp, .value, rfl⟩
  | joint =>
    cases opened with
    | nil => cases h
    | cons innermost outer =>
      cases h
      exact .inr ⟨rfl, innermost, outer, rfl, rfl⟩

/-- At the end of the tokens the refusal is that of an early end. -/
@[simp]
theorem refusal?_nil (limit : Option Nat) (s : Progress) :
    s.refusal? limit [] = s.endFault?.map .fault :=
  rfl

/-- A token that is refused is the refusal of the tokens. -/
theorem refusal?_of_error {ts : List Token} (h : s.step limit t = .error r) :
    s.refusal? limit (t :: ts) = some r := by
  rw [refusal?, run, h]

/-- Behind a token that is taken the refusal is that of the other tokens. -/
theorem Move.refusal? (h : Move limit s t s') (ts : List Token) :
    s.refusal? limit (t :: ts) = s'.refusal? limit ts := by
  rw [Progress.refusal?, run, h.step]
  rfl

/-- Behind tokens that are taken the refusal is that of the other tokens. -/
theorem refusal?_append {ts : List Token} (h : s.run limit ts = .ok s') (us : List Token) :
    s.refusal? limit (ts ++ us) = s'.refusal? limit us := by
  rw [refusal?, run_append, h]
  rfl

/-- Tokens that are not refused are taken from the first to the last. -/
theorem exists_run_of_refusal? {ts us : List Token} (h : s.refusal? limit (ts ++ us) = none) :
    ∃ s', s.run limit ts = .ok s' := by
  cases hrun : s.run limit ts with
  | ok s' => exact ⟨s', rfl⟩
  | error r =>
    rw [refusal?, run_append, hrun] at h
    cases h

end Progress

/-! ## The parser refuses what the progress refuses -/

open Progress

variable {limit : Option Nat} {depth : Nat} {op : Connective} {tokens : List Token}

/-- In front of a value the refusal is that of reading the value, or of what is behind it. -/
theorem parseValue_refusal? (limit : Option Nat) (opened : List Token) (key : Word)
    (tokens : List Token) :
    refusal? limit ⟨.value, opened⟩ tokens =
      match parseValue key tokens with
      | .error r => some r
      | .ok p => refusal? limit ⟨.joint, opened⟩ p.rest := by
  cases tokens with
  | nil => rfl
  | cons t rest =>
    cases hvalue : t.lexeme.asWord? with
    | none =>
      have hstep : step limit ⟨.value, opened⟩ t = .error (.fault (.unexpected t)) := by
        simp [step, hvalue]
      simp [refusal?_of_error hstep, parseValue, hvalue]
    | some value => simp [(Move.value hvalue).refusal? rest, parseValue, hvalue]

/-- In front of an equals sign the refusal is that of reading the clause to its end, or of
what is behind it. -/
theorem parseEquals_refusal? (limit : Option Nat) (opened : List Token) (key : Word)
    (tokens : List Token) :
    refusal? limit ⟨.equals, opened⟩ tokens =
      match parseEquals key tokens with
      | .error r => some r
      | .ok p => refusal? limit ⟨.joint, opened⟩ p.rest := by
  cases tokens with
  | nil => rfl
  | cons t rest =>
    by_cases hequals : t.lexeme = .equals
    · rw [(Move.equals hequals).refusal? rest, parseValue_refusal? limit opened key rest,
        parseEquals, if_pos hequals]
      cases parseValue key rest <;> rfl
    · have hstep : step limit ⟨.equals, opened⟩ t = .error (.fault (.unexpected t)) := by
        simp [step, hequals]
      simp [refusal?_of_error hstep, parseEquals, hequals]

/-- In front of a clause the refusal is that of reading the clause, or of what is behind
it. -/
theorem parseClause_refusal? (limit : Option Nat) (opened : List Token)
    (htokens : ∀ t ∈ tokens.head?, t.lexeme ≠ .opening) :
    refusal? limit ⟨.operand, opened⟩ tokens =
      match parseClause tokens with
      | .error r => some r
      | .ok p => refusal? limit ⟨.joint, opened⟩ p.rest := by
  cases tokens with
  | nil => rfl
  | cons t rest =>
    have hopening : t.lexeme ≠ .opening := htokens t rfl
    cases hkey : t.lexeme.asWord? with
    | none =>
      have hstep : step limit ⟨.operand, opened⟩ t = .error (.fault (.unexpected t)) := by
        simp [step, hopening, hkey]
      simp [refusal?_of_error hstep, parseClause, hkey]
    | some key =>
      by_cases hempty : key.text = ""
      · have hstep : step limit ⟨.operand, opened⟩ t = .error (.fault (.emptyKey t.offset)) := by
          simp [step, hopening, hkey, hempty]
        simp [refusal?_of_error hstep, parseClause, hkey, hempty]
      · rw [(Move.key hkey hempty).refusal? rest, parseEquals_refusal? limit opened key rest]
        simp only [parseClause, hkey, hempty, if_false]
        cases parseEquals key rest <;> rfl

/-- Further operands that were read stop where their chain ends, if each operand stops where
its own tier ends. -/
theorem parseOthers_ends
    (hoperand : ∀ (rest : List Token) (next : Parsed rest),
      parseOperand limit depth op rest = .ok next → op.operandTier.Ends next.rest)
    {tokens : List Token} {o : Operands tokens} (htokens : op.operandTier.Ends tokens)
    (h : parseOthers limit depth op tokens = .ok o) : (Tier.chain op).Ends o.rest := by
  rcases parseOthers_eq_ok h with ⟨-, hrest, hstop⟩ |
    ⟨t, rest, next, others, rfl, -, hnext, hothers, -, hrest⟩
  · rw [hrest]
    exact htokens.chain hstop
  · have hshorter : next.rest.length < (t :: rest).length := Nat.lt_succ_of_lt next.shorter
    rw [hrest]
    exact parseOthers_ends hoperand (hoperand rest next hnext) hothers
termination_by tokens.length

/-- A chain that was read stops where it ends, if its operands do. -/
theorem parseChain_ends_of_operand
    (hoperand : ∀ (rest : List Token) (next : Parsed rest),
      parseOperand limit depth op rest = .ok next → op.operandTier.Ends next.rest)
    {p : Parsed tokens} (h : parseChain limit depth op tokens = .ok p) :
    (Tier.chain op).Ends p.rest := by
  rcases parseChain_eq_ok h with ⟨first, others, hfirst, hothers, -, hrest⟩
  rw [hrest]
  exact parseOthers_ends hoperand (hoperand tokens first hfirst) hothers

/-- A chain that was read stops where it ends. -/
theorem parseChain_ends {p : Parsed tokens} (h : parseChain limit depth op tokens = .ok p) :
    (Tier.chain op).Ends p.rest := by
  have hprimary : ∀ (rest : List Token) (next : Parsed rest),
      parseOperand limit depth .and rest = .ok next → Tier.primary.Ends next.rest := by
    intro rest next _
    simp [Tier.Ends, Tier.joints]
  cases op with
  | and => exact parseChain_ends_of_operand hprimary h
  | or =>
    refine parseChain_ends_of_operand (fun rest next hnext => ?_) h
    rw [parseOperand] at hnext
    exact parseChain_ends_of_operand hprimary hnext

/-- Behind a chain that has ended, a token is refused unless it closes a parenthesis. -/
theorem step_joint_of_ends {c : Token} {rest opened : List Token}
    (hends : (Tier.chain .or).Ends (c :: rest)) (hc : c.lexeme = .closing → opened = []) :
    step limit ⟨.joint, opened⟩ c = .error (.fault (.unexpected c)) := by
  simp only [step]
  split
  · rename_i op hkeyword
    have hjoint : op ∈ (Tier.chain .or).joints := by cases op <;> simp [Tier.joints]
    exact absurd hkeyword (hends c rfl op hjoint)
  · rename_i hclosing
    cases hc hclosing
  · rfl

-- The parser counts the parentheses that it is in, and the progress keeps them: `hdepth`.
mutual

/-- In front of a chain the refusal is that of reading the chain, or of what is behind it. -/
theorem parseChain_refusal? {depth : Nat} {opened : List Token} (hdepth : opened.length = depth)
    (op : Connective) (tokens : List Token) :
    refusal? limit ⟨.operand, opened⟩ tokens =
      match parseChain limit depth op tokens with
      | .error r => some r
      | .ok p => refusal? limit ⟨.joint, opened⟩ p.rest := by
  rw [parseOperand_refusal? hdepth op tokens, parseChain]
  cases parseOperand limit depth op tokens with
  | error r => rfl
  | ok first =>
    simp only
    rw [parseOthers_refusal? hdepth op first.rest]
    cases parseOthers limit depth op first.rest <;> rfl
termination_by (tokens.length, match op with | .or => 4 | .and => 2)
decreasing_by
  · cases op <;> simp [Prod.lex_def]
  · simp [Prod.lex_def, first.shorter]

/-- Behind an operand the refusal is that of reading further operands, or of what is behind
them. -/
theorem parseOthers_refusal? {depth : Nat} {opened : List Token} (hdepth : opened.length = depth)
    (op : Connective) (tokens : List Token) :
    refusal? limit ⟨.joint, opened⟩ tokens =
      match parseOthers limit depth op tokens with
      | .error r => some r
      | .ok o => refusal? limit ⟨.joint, opened⟩ o.rest := by
  cases tokens with
  | nil => rw [parseOthers]
  | cons t rest =>
    by_cases hkeyword : t.lexeme = .keyword op
    · rw [(Move.keyword hkeyword).refusal? rest, parseOperand_refusal? hdepth op rest,
        parseOthers, if_pos hkeyword]
      cases parseOperand limit depth op rest with
      | error r => rfl
      | ok next =>
        simp only
        rw [parseOthers_refusal? hdepth op next.rest]
        cases parseOthers limit depth op next.rest <;> rfl
    · rw [parseOthers, if_neg hkeyword]
termination_by (tokens.length, 0)
decreasing_by
  · simp [Prod.lex_def]
  · have := next.shorter
    simp [Prod.lex_def]
    omega

/-- In front of an operand the refusal is that of reading the operand, or of what is behind
it. -/
theorem parseOperand_refusal? {depth : Nat} {opened : List Token} (hdepth : opened.length = depth)
    (op : Connective) (tokens : List Token) :
    refusal? limit ⟨.operand, opened⟩ tokens =
      match parseOperand limit depth op tokens with
      | .error r => some r
      | .ok p => refusal? limit ⟨.joint, opened⟩ p.rest := by
  match op with
  | .or =>
    rw [parseOperand]
    exact parseChain_refusal? hdepth .and tokens
  | .and =>
    rw [parseOperand]
    exact parsePrimary_refusal? hdepth tokens
termination_by (tokens.length, match op with | .or => 3 | .and => 1)
decreasing_by
  · simp [Prod.lex_def]
  · simp [Prod.lex_def]

/-- In front of a primary the refusal is that of reading the primary, or of what is behind
it. -/
theorem parsePrimary_refusal? {depth : Nat} {opened : List Token} (hdepth : opened.length = depth)
    (tokens : List Token) :
    refusal? limit ⟨.operand, opened⟩ tokens =
      match parsePrimary limit depth tokens with
      | .error r => some r
      | .ok p => refusal? limit ⟨.joint, opened⟩ p.rest := by
  cases tokens with
  | nil =>
    rw [parsePrimary]
    rfl
  | cons t rest =>
    by_cases hopening : t.lexeme = .opening
    · cases hlimit : exceeded? limit (depth + 1) with
      | some max =>
        have hstep : step limit ⟨.operand, opened⟩ t = .error (.tooDeep max) := by
          simp [step, hopening, hdepth, hlimit]
        rw [refusal?_of_error hstep, parsePrimary, if_pos hopening, hlimit]
      | none =>
        have hmove : Move limit ⟨.operand, opened⟩ t ⟨.operand, t :: opened⟩ :=
          .opening hopening (by rw [hdepth, hlimit])
        rw [hmove.refusal? rest, parseChain_refusal? (congrArg (· + 1) hdepth) .or rest,
          parsePrimary, if_pos hopening, hlimit]
        cases hinner : parseChain limit (depth + 1) .or rest with
        | error r => rfl
        | ok inner =>
          -- The chain would have gone on over a keyword, so none comes next.
          have hends := parseChain_ends hinner
          rcases inner with ⟨f, rest', hshorter⟩
          cases rest' with
          | nil => rfl
          | cons c rest'' =>
            by_cases hclosing : c.lexeme = .closing
            · have hclose : Move limit ⟨.joint, t :: opened⟩ c ⟨.joint, opened⟩ :=
                .closing hclosing
              simp [hclose.refusal? rest'', hclosing]
            · have hstep := @step_joint_of_ends limit c rest'' (t :: opened) hends
                fun h => absurd h hclosing
              simp [refusal?_of_error hstep, hclosing]
    · rw [parsePrimary, if_neg hopening]
      exact parseClause_refusal? limit opened (by simpa using hopening)
termination_by (tokens.length, 0)
decreasing_by
  simp [Prod.lex_def]

end

/-- Tokens are refused exactly for the reason that going through them gives. -/
theorem ofTokens_eq_error_iff (hne : tokens ≠ []) {r : Refusal} :
    ofTokens limit tokens = .error r ↔ start.refusal? limit tokens = some r := by
  have hchain := @parseChain_refusal? limit 0 [] rfl .or tokens
  rw [start, hchain]
  cases hparse : parseChain limit 0 .or tokens with
  | error r' => simp [ofTokens, hne, hparse]
  | ok p =>
    have hends := parseChain_ends hparse
    rcases p with ⟨f, rest, hshorter⟩
    cases rest with
    | nil => simp [ofTokens, hne, hparse, endFault?]
    | cons t rest' =>
      have hstep := @step_joint_of_ends limit t rest' [] hends fun _ => rfl
      simp [ofTokens, hne, hparse, refusal?_of_error hstep]

/-- Tokens are accepted exactly if going through them refuses nothing. -/
theorem exists_ofTokens_eq_ok_iff :
    (∃ f, ofTokens limit tokens = .ok f) ↔ start.refusal? limit tokens = none := by
  cases tokens with
  | nil => simp [ofTokens, start, endFault?]
  | cons t rest =>
    have hiff := fun r => @ofTokens_eq_error_iff limit (t :: rest) (List.cons_ne_nil t rest) r
    cases hresult : ofTokens limit (t :: rest) with
    | error r => simp [(hiff r).mp hresult]
    | ok f =>
      rw [Option.eq_none_iff_forall_ne_some]
      simp [← hiff, hresult]

end Formula
end HostFilter
