import HostFilter.Proofs.Formula.Balance

/-!
# Parsing with a cursor

The parser returns the tokens that it leaves, together with the fact that they are fewer, and
it is told how deep in parentheses it is.  A parser can also keep both in a state: a cursor
goes along the tokens, and the depth counts up at an opening parenthesis and down at the
closing one.  Then nothing says beforehand that a run comes to an end: a chain goes on as long
as a keyword comes next, and a chain in parentheses is read by the same routine as the chain
around it, with nothing smaller than before but what is left of the tokens.

Runs with a cursor are defined here without that knowledge: a run may make so many calls
inside each other, and if it would need more it has no ending.  A run that ends does so as the
parser does, and five calls for each token that is left and five more are always enough.

Main results:

- Theorem `readChain_outcome`: a chain is read with a cursor as the parser reads it, or the
  calls were too few.
- Theorem `read_eq`: with enough calls, a phrase of any tier is read as the parser reads it,
  and the cursor moves over what was read.
- Theorem `readTokens_eq`: with enough calls, all tokens are read as the parser reads them.
-/

namespace HostFilter

/-- The state of a parser: the position in the tokens, and the number of parentheses that are
open, with an optional limit on it. -/
structure Cursor where
  tokens : List Token
  position : Nat
  depth : Nat
  limit : Option Nat

namespace Cursor

open Formula

/-- The token at the cursor. -/
def peek (s : Cursor) : Option Token :=
  s.tokens[s.position]?

/-- The cursor behind the next `n` tokens. -/
def skip (s : Cursor) (n : Nat) : Cursor :=
  { s with position := s.position + n }

/-- Take the next token.  At the end there is none to take. -/
def advance (s : Cursor) : Option (Token × Cursor) :=
  s.peek.map fun t => (t, s.skip 1)

/-- One more parenthesis is open. -/
def enter (s : Cursor) : Cursor :=
  { s with depth := s.depth + 1 }

/-- One parenthesis less is open. -/
def leave (s : Cursor) : Cursor :=
  { s with depth := s.depth - 1 }

/-- The tokens in front of the cursor. -/
def rest (s : Cursor) : List Token :=
  s.tokens.drop s.position

/-- How a run ends: in a refusal, or with a result and a cursor behind what was read. -/
abbrev Ending (α : Type) : Type :=
  Except Refusal (α × Cursor)

/-! ## Runs -/

/-- Read the value of a clause. -/
def readValue (key : Word) (s : Cursor) : Ending Formula :=
  match s.advance with
  | none => .error (.fault (.endsBefore .value))
  | some (t, s₁) =>
    match t.lexeme.asWord? with
    | some value => .ok (.clause ⟨key, value⟩, s₁)
    | none => .error (.fault (.unexpected t))

/-- Read the equals sign of a clause and what follows it. -/
def readEquals (key : Word) (s : Cursor) : Ending Formula :=
  match s.advance with
  | none => .error (.fault (.endsBefore .equals))
  | some (t, s₁) =>
    if t.lexeme = .equals then s₁.readValue key else .error (.fault (.unexpected t))

/-- Read a clause. -/
def readClause (s : Cursor) : Ending Formula :=
  match s.advance with
  | none => .error (.fault (.endsBefore .clause))
  | some (t, s₁) =>
    match t.lexeme.asWord? with
    | none => .error (.fault (.unexpected t))
    | some key =>
      if key.text = "" then .error (.fault (.emptyKey t.offset)) else s₁.readEquals key

/-- Read the closing parenthesis behind a formula, and count it. -/
def readClosing (opening : Token) (f : Formula) (s : Cursor) : Ending Formula :=
  match s.advance with
  | none => .error (.fault (.unclosed opening.offset))
  | some (t, s₁) =>
    if t.lexeme = .closing then .ok (f, s₁.leave) else .error (.fault (.unexpected t))

mutual

/-- Read a chain of operands joined by `op`. -/
def readChain (calls : Nat) (op : Connective) (s : Cursor) : Option (Ending Formula) :=
  match calls with
  | 0 => none
  | calls + 1 => do
    match ← readOperand calls op s with
    | .error refusal => return .error refusal
    | .ok (first, s₁) =>
      match ← readOthers calls op s₁ with
      | .error refusal => return .error refusal
      | .ok (others, s₂) => return .ok (chained op first others, s₂)

/-- Read operands as long as the keyword of `op` comes next. -/
def readOthers (calls : Nat) (op : Connective) (s : Cursor) : Option (Ending (List Formula)) :=
  match calls with
  | 0 => none
  | calls + 1 => do
    match s.advance with
    | none => return .ok ([], s)
    | some (t, s₁) =>
      if t.lexeme = .keyword op then
        match ← readOperand calls op s₁ with
        | .error refusal => return .error refusal
        | .ok (next, s₂) =>
          match ← readOthers calls op s₂ with
          | .error refusal => return .error refusal
          | .ok (others, s₃) => return .ok (next :: others, s₃)
      else return .ok ([], s)

/-- Read one operand of a chain. -/
def readOperand (calls : Nat) (op : Connective) (s : Cursor) : Option (Ending Formula) :=
  match calls with
  | 0 => none
  | calls + 1 =>
    match op with
    | .or => readChain calls .and s
    | .and => readPrimary calls s

/-- Read a formula in parentheses or a clause.  An opening parenthesis is counted before the
limit is looked at. -/
def readPrimary (calls : Nat) (s : Cursor) : Option (Ending Formula) :=
  match calls with
  | 0 => none
  | calls + 1 => do
    match s.advance with
    | none => return readClause s
    | some (t, s₁) =>
      if t.lexeme = .opening then
        match exceeded? s₁.enter.limit s₁.enter.depth with
        | some max => return .error (.tooDeep max)
        | none =>
          match ← readChain calls .or s₁.enter with
          | .error refusal => return .error refusal
          | .ok (inner, s₂) => return readClosing t inner s₂
      else return readClause s

end

/-- Read a phrase of a tier. -/
def read (calls : Nat) (tier : Tier) (s : Cursor) : Option (Ending Formula) :=
  match tier with
  | .chain op => readChain calls op s
  | .primary => readPrimary calls s

/-- Read a list of tokens as one formula. -/
def readTokens (calls : Nat) (limit : Option Nat) (tokens : List Token) :
    Option (Except Refusal Formula) := do
  if tokens.isEmpty then return .error (.fault .empty)
  else
    match ← readChain calls .or ⟨tokens, 0, 0, limit⟩ with
    | .error refusal => return .error refusal
    | .ok (f, s) =>
      match s.peek with
      | none => return .ok f
      | some t => return .error (.fault (.unexpected t))

/-! ## Moving the cursor -/

@[simp]
theorem limit_skip (s : Cursor) (n : Nat) : (s.skip n).limit = s.limit :=
  rfl

@[simp]
theorem depth_skip (s : Cursor) (n : Nat) : (s.skip n).depth = s.depth :=
  rfl

@[simp]
theorem rest_skip (s : Cursor) (n : Nat) : (s.skip n).rest = s.rest.drop n := by
  simp [rest, skip]

@[simp]
theorem limit_enter (s : Cursor) : s.enter.limit = s.limit :=
  rfl

@[simp]
theorem depth_enter (s : Cursor) : s.enter.depth = s.depth + 1 :=
  rfl

@[simp]
theorem rest_enter (s : Cursor) : s.enter.rest = s.rest :=
  rfl

/-- Going over `n` tokens and then over the next ones up to the last `c` of all `a`. -/
theorem skip_skip_sub (s : Cursor) {a b c n : Nat} (hb : n + b = a) (hc : c ≤ b) :
    (s.skip n).skip (b - c) = s.skip (a - c) := by
  have hposition : s.position + n + (b - c) = s.position + (a - c) := by omega
  simp only [skip, hposition]

/-- Going over an opening parenthesis, over what follows it up to the closing one in front of
the last `b` of `a` tokens, and over the closing one leaves the count as it was. -/
theorem leave_skip_enter_skip (s : Cursor) {a b : Nat} (h : b + 1 ≤ a) :
    (((s.skip 1).enter.skip (a - (b + 1))).skip 1).leave = s.skip (a + 1 - b) := by
  have hposition : s.position + 1 + (a - (b + 1)) + 1 = s.position + (a + 1 - b) := by omega
  simp only [skip, enter, leave, hposition, Nat.add_sub_cancel]

variable {s : Cursor} {op : Connective} {tokens : List Token} {t : Token}

theorem peek_eq_head? (s : Cursor) : s.peek = s.rest.head? := by
  rw [peek, rest, List.head?_drop]

theorem advance_of_rest_nil (h : s.rest = []) : s.advance = none := by
  simp [advance, peek_eq_head?, h]

theorem advance_of_rest_cons (h : s.rest = t :: tokens) : s.advance = some (t, s.skip 1) := by
  simp [advance, peek_eq_head?, h]

/-! ## Runs end as the parser does -/

/-- The formula that the parser read, and the cursor behind the tokens that it used. -/
def landed (s : Cursor) (p : Parsed tokens) : Formula × Cursor :=
  (p.formula, s.skip (tokens.length - p.rest.length))

/-- The operands that the parser read, and the cursor behind the tokens that it used. -/
def landedOthers (s : Cursor) (o : Operands tokens) : List Formula × Cursor :=
  (o.formulas, s.skip (tokens.length - o.rest.length))

/-- Behind a phrase stands what the parser leaves. -/
theorem rest_skip_of_spells {tier : Tier} {rest : List Token} {f : Formula} (h : s.rest = tokens)
    (hspells : Spells tier tokens rest f) :
    (s.skip (tokens.length - rest.length)).rest = rest := by
  rcases hspells with ⟨used, rfl, -⟩
  simp [h]

theorem readValue_eq (key : Word) (h : s.rest = tokens) :
    s.readValue key = (parseValue key tokens).map s.landed := by
  cases tokens with
  | nil => simp [readValue, parseValue, advance_of_rest_nil h, Except.map]
  | cons t rest =>
    cases hvalue : t.lexeme.asWord? with
    | none => simp [readValue, parseValue, advance_of_rest_cons h, hvalue, Except.map]
    | some value =>
      simp [readValue, parseValue, advance_of_rest_cons h, hvalue, Except.map, landed]

theorem readEquals_eq (key : Word) (h : s.rest = tokens) :
    s.readEquals key = (parseEquals key tokens).map s.landed := by
  cases tokens with
  | nil => simp [readEquals, parseEquals, advance_of_rest_nil h, Except.map]
  | cons t rest =>
    by_cases hequals : t.lexeme = .equals
    · have hvalue := @readValue_eq (s.skip 1) rest key (by simp [h])
      simp only [readEquals, parseEquals, advance_of_rest_cons h, if_pos hequals, hvalue]
      cases parseValue key rest with
      | error refusal => rfl
      | ok p =>
        simp only [Except.map, landed, List.length_cons,
          skip_skip_sub s (Nat.add_comm 1 _) (Nat.le_of_lt p.shorter)]
    · simp [readEquals, parseEquals, advance_of_rest_cons h, hequals, Except.map]

theorem readClause_eq (h : s.rest = tokens) :
    s.readClause = (parseClause tokens).map s.landed := by
  cases tokens with
  | nil => simp [readClause, parseClause, advance_of_rest_nil h, Except.map]
  | cons t rest =>
    cases hkey : t.lexeme.asWord? with
    | none => simp [readClause, parseClause, advance_of_rest_cons h, hkey, Except.map]
    | some key =>
      by_cases hempty : key.text = ""
      · simp [readClause, parseClause, advance_of_rest_cons h, hkey, hempty, Except.map]
      · have hequals := @readEquals_eq (s.skip 1) rest key (by simp [h])
        simp only [readClause, parseClause, advance_of_rest_cons h, hkey, if_neg hempty, hequals]
        cases parseEquals key rest with
        | error refusal => rfl
        | ok p =>
          simp only [Except.map, landed, List.length_cons,
            skip_skip_sub s (Nat.add_comm 1 _) (Nat.le_of_lt p.shorter)]

/-- What becomes of a run that may make some calls inside each other and needs no more than some
others: it has its ending, or the calls were too few and it has none. -/
def Outcome {α : Type} (calls needed : Nat) (run : Option α) (ending : α) : Prop :=
  run = some ending ∨ run = none ∧ calls ≤ needed

/-- A run goes on behind the ending of another one that it has called. -/
theorem Outcome.bind {α β : Type} {calls calls' needed needed' : Nat} {run : Option α} {a : α}
    {next : α → Option β} {b : β} (hrun : Outcome calls needed run a)
    (hfew : calls ≤ needed → calls' ≤ needed') (hnext : Outcome calls' needed' (next a) b) :
    Outcome calls' needed' (run >>= next) b := by
  rcases hrun with rfl | ⟨rfl, hcalls⟩
  · exact hnext
  · exact .inr ⟨rfl, hfew hcalls⟩

theorem Outcome.eq_of_some {α : Type} {calls needed : Nat} {run : Option α} {a b : α}
    (h : Outcome calls needed run a) (hrun : run = some b) : b = a := by
  rcases h with hend | ⟨hnone, -⟩
  · exact Option.some.inj (hrun.symm.trans hend)
  · simp [hnone] at hrun

theorem Outcome.eq_some {α : Type} {calls needed : Nat} {run : Option α} {a : α}
    (h : Outcome calls needed run a) (hcalls : needed < calls) : run = some a := by
  rcases h with hend | ⟨-, hfew⟩
  · exact hend
  · exact absurd hfew (Nat.not_le_of_lt hcalls)

/-- The calls inside each other that suffice an operand on so many tokens. -/
def operandCalls (op : Connective) (tokens : List Token) : Nat :=
  match op with
  | .or => 5 * tokens.length + 3
  | .and => 5 * tokens.length + 1

theorem le_operandCalls (op : Connective) (tokens : List Token) :
    5 * tokens.length ≤ operandCalls op tokens := by
  cases op <;> simp [operandCalls]

theorem operandCalls_le (op : Connective) (tokens : List Token) :
    operandCalls op tokens ≤ 5 * tokens.length + 3 := by
  cases op <;> simp [operandCalls]

-- The induction is on the calls that are allowed.  How many suffice follows the parser: the
-- tokens that are left, and where no token is taken, how loose the routines bind.
mutual

/-- A chain is read as the parser reads it. -/
theorem readChain_outcome {s : Cursor} {tokens : List Token} (calls : Nat) (op : Connective)
    (h : s.rest = tokens) :
    Outcome calls (operandCalls op tokens + 1) (readChain calls op s)
      ((parseChain s.limit s.depth op tokens).map s.landed) := by
  match calls with
  | 0 => exact .inr ⟨rfl, Nat.zero_le _⟩
  | calls + 1 =>
    rw [readChain, parseChain]
    refine (readOperand_outcome calls op h).bind Nat.succ_le_succ ?_
    cases hfirst : parseOperand s.limit s.depth op tokens with
    | error refusal => exact .inl rfl
    | ok first =>
      have hrest := rest_skip_of_spells h (parseOperand_spells hfirst)
      have hshorter := first.shorter
      have hcalls := le_operandCalls op tokens
      refine (readOthers_outcome calls op hrest).bind (fun hfew => by omega) ?_
      simp only [limit_skip, depth_skip]
      cases parseOthers s.limit s.depth op first.rest with
      | error refusal => exact .inl rfl
      | ok others =>
        have hlength : tokens.length - first.rest.length + first.rest.length = tokens.length :=
          Nat.sub_add_cancel (Nat.le_of_lt hshorter)
        left
        simp only [Except.map, landedOthers, skip_skip_sub s hlength others.notLonger]
        rfl

/-- Further operands are read as the parser reads them. -/
theorem readOthers_outcome {s : Cursor} {tokens : List Token} (calls : Nat) (op : Connective)
    (h : s.rest = tokens) :
    Outcome calls (5 * tokens.length) (readOthers calls op s)
      ((parseOthers s.limit s.depth op tokens).map s.landedOthers) := by
  match calls with
  | 0 => exact .inr ⟨rfl, Nat.zero_le _⟩
  | calls + 1 =>
    cases tokens with
    | nil =>
      rw [readOthers, parseOthers, advance_of_rest_nil h]
      exact .inl rfl
    | cons t rest =>
      rw [readOthers, parseOthers, advance_of_rest_cons h]
      by_cases hkeyword : t.lexeme = .keyword op
      · have hbehind : (s.skip 1).rest = rest := by simp [h]
        have hcalls := operandCalls_le op rest
        simp only [if_pos hkeyword, List.length_cons]
        refine (readOperand_outcome calls op hbehind).bind (fun hfew => by omega) ?_
        simp only [limit_skip, depth_skip]
        cases hnext : parseOperand s.limit s.depth op rest with
        | error refusal => exact .inl rfl
        | ok next =>
          have hrest := rest_skip_of_spells hbehind (parseOperand_spells hnext)
          have hshorter := next.shorter
          refine (readOthers_outcome calls op hrest).bind (fun hfew => by omega) ?_
          simp only [limit_skip, depth_skip]
          cases parseOthers s.limit s.depth op next.rest with
          | error refusal => exact .inl rfl
          | ok others =>
            have hlength : rest.length + 1 - next.rest.length + next.rest.length =
                rest.length + 1 := by omega
            left
            simp only [Except.map, landedOthers,
              skip_skip_sub s (Nat.add_comm 1 _) (Nat.le_of_lt hshorter),
              skip_skip_sub s hlength others.notLonger, List.length_cons]
            rfl
      · left
        simp [hkeyword, Except.map, landedOthers, skip]

/-- An operand is read as the parser reads it. -/
theorem readOperand_outcome {s : Cursor} {tokens : List Token} (calls : Nat) (op : Connective)
    (h : s.rest = tokens) :
    Outcome calls (operandCalls op tokens) (readOperand calls op s)
      ((parseOperand s.limit s.depth op tokens).map s.landed) := by
  match calls, op with
  | 0, _ => exact .inr ⟨rfl, Nat.zero_le _⟩
  | calls + 1, .or =>
    rw [readOperand, parseOperand]
    rcases readChain_outcome calls .and h with hend | ⟨hnone, hfew⟩
    · exact .inl hend
    · exact .inr ⟨hnone, Nat.succ_le_succ hfew⟩
  | calls + 1, .and =>
    rw [readOperand, parseOperand]
    rcases readPrimary_outcome calls h with hend | ⟨hnone, hfew⟩
    · exact .inl hend
    · exact .inr ⟨hnone, Nat.succ_le_succ hfew⟩

/-- A primary is read as the parser reads it. -/
theorem readPrimary_outcome {s : Cursor} {tokens : List Token} (calls : Nat)
    (h : s.rest = tokens) :
    Outcome calls (5 * tokens.length) (readPrimary calls s)
      ((parsePrimary s.limit s.depth tokens).map s.landed) := by
  match calls with
  | 0 => exact .inr ⟨rfl, Nat.zero_le _⟩
  | calls + 1 =>
    cases tokens with
    | nil =>
      rw [readPrimary, parsePrimary, advance_of_rest_nil h, readClause_eq h]
      exact .inl rfl
    | cons t rest =>
      rw [readPrimary, parsePrimary, advance_of_rest_cons h]
      by_cases hopening : t.lexeme = .opening
      · have hbehind : (s.skip 1).enter.rest = rest := by simp [h]
        have hcalls := operandCalls_le .or rest
        simp only [if_pos hopening, limit_enter, limit_skip, depth_enter, depth_skip,
          List.length_cons]
        cases exceeded? s.limit (s.depth + 1) with
        | some max => exact .inl rfl
        | none =>
          refine (readChain_outcome calls .or hbehind).bind (fun hfew => by omega) ?_
          simp only [limit_enter, limit_skip, depth_enter, depth_skip]
          cases hinner : parseChain s.limit (s.depth + 1) .or rest with
          | error refusal => exact .inl rfl
          | ok inner =>
            have hrest := rest_skip_of_spells hbehind (parseChain_spells hinner)
            rcases inner with ⟨f, behind, hshorter⟩
            left
            simp only [Except.map, landed, readClosing]
            cases behind with
            | nil =>
              rw [advance_of_rest_nil hrest]
              rfl
            | cons c behind =>
              rw [advance_of_rest_cons hrest]
              by_cases hclosing : c.lexeme = .closing
              · simp [hclosing, leave_skip_enter_skip s (Nat.le_of_lt hshorter)]
              · simp [hclosing]
      · left
        simp [hopening, readClause_eq h]

end

/-- A phrase of any tier is read as the parser reads it. -/
theorem read_outcome (calls : Nat) (tier : Tier) (s : Cursor) :
    Outcome calls (5 * s.rest.length + 4) (s.read calls tier)
      ((parseTier s.limit s.depth tier s.rest).map s.landed) := by
  cases tier with
  | chain op =>
    have hneeded := operandCalls_le op s.rest
    exact (readChain_outcome calls op rfl).imp_right (And.imp_right fun hfew => by omega)
  | primary =>
    exact (readPrimary_outcome calls rfl).imp_right (And.imp_right fun hfew => by omega)

/-- With enough calls a phrase is read as the parser reads it. -/
theorem read_eq {calls : Nat} (tier : Tier) (s : Cursor)
    (hcalls : 5 * s.rest.length + 4 < calls) :
    s.read calls tier = some ((parseTier s.limit s.depth tier s.rest).map s.landed) :=
  (read_outcome calls tier s).eq_some hcalls

/-- Reading all tokens comes to an end, with the parser's result. -/
theorem readTokens_eq {calls : Nat} (limit : Option Nat) (tokens : List Token)
    (hcalls : 5 * tokens.length + 4 < calls) :
    readTokens calls limit tokens = some (ofTokens limit tokens) := by
  have hrest : (⟨tokens, 0, 0, limit⟩ : Cursor).rest = tokens := List.drop_zero
  have hchain := (readChain_outcome calls .or hrest).eq_some hcalls
  unfold readTokens ofTokens
  rw [hchain]
  split
  · rfl
  · cases hparse : parseChain limit 0 .or tokens with
    | error refusal => rfl
    | ok p =>
      have hbehind := rest_skip_of_spells hrest (parseChain_spells hparse)
      simp only [Except.map, landed, Option.bind_eq_bind, Option.bind_some, peek_eq_head?,
        hbehind]
      cases p.rest <;> rfl

end Cursor
end HostFilter
