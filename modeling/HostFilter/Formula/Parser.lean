import HostFilter.Fault
import HostFilter.Formula.Basic

/-!
# Parsing tokens into formulas

A filter is a chain of operands joined by `or`, each a chain of operands joined by
`and`, each a formula in parentheses or a clause.  Where a word is expected a
keyword is read as the word of its spelling.  Nesting may be limited; the limit is
checked at each opening parenthesis, before what it encloses.

Every step returns the tokens it left, with the fact that they are fewer; that is
why parsing comes to an end.
-/

namespace HostFilter

/-- Why a list of tokens is refused: it is no formula, or parentheses are nested
deeper than the limit. -/
inductive Refusal where
  | fault (fault : SyntaxFault)
  | tooDeep (limit : Nat)
deriving DecidableEq

namespace Formula

/-- A formula read off the front of `tokens`, and the tokens behind it. -/
structure Parsed (tokens : List Token) where
  formula : Formula
  rest : List Token
  shorter : rest.length < tokens.length

/-- Further operands of a chain read off the front of `tokens`, and the tokens
behind them. -/
structure Operands (tokens : List Token) where
  formulas : List Formula
  rest : List Token
  notLonger : rest.length ≤ tokens.length

/-- The limit, if there is one and the nesting depth is beyond it. -/
def exceeded? (limit : Option Nat) (depth : Nat) : Option Nat :=
  limit.filter (· < depth)

/-- Read the value of a clause and build the clause. -/
def parseValue (key : Word) (tokens : List Token) : Except Refusal (Parsed tokens) :=
  match tokens with
  | [] => .error (.fault (.endsBefore .value))
  | t :: rest =>
    match t.lexeme.asWord? with
    | some value => .ok ⟨.clause ⟨key, value⟩, rest, by simp⟩
    | none => .error (.fault (.unexpected t))

/-- Read the equals sign of a clause and what follows it. -/
def parseEquals (key : Word) (tokens : List Token) : Except Refusal (Parsed tokens) :=
  match tokens with
  | [] => .error (.fault (.endsBefore .equals))
  | t :: rest =>
    if t.lexeme = .equals then
      match parseValue key rest with
      | .error refusal => .error refusal
      | .ok p => .ok ⟨p.formula, p.rest, Nat.lt_succ_of_lt p.shorter⟩
    else .error (.fault (.unexpected t))

/-- Read a clause. -/
def parseClause (tokens : List Token) : Except Refusal (Parsed tokens) :=
  match tokens with
  | [] => .error (.fault (.endsBefore .clause))
  | t :: rest =>
    match t.lexeme.asWord? with
    | none => .error (.fault (.unexpected t))
    | some key =>
      if key.text = "" then .error (.fault (.emptyKey t.offset))
      else
        match parseEquals key rest with
        | .error refusal => .error refusal
        | .ok p => .ok ⟨p.formula, p.rest, Nat.lt_succ_of_lt p.shorter⟩

mutual

/-- Read a chain of operands joined by `op`. -/
def parseChain (limit : Option Nat) (depth : Nat) (op : Connective) (tokens : List Token) :
    Except Refusal (Parsed tokens) :=
  match parseOperand limit depth op tokens with
  | .error refusal => .error refusal
  | .ok first =>
    match parseOthers limit depth op first.rest with
    | .error refusal => .error refusal
    | .ok others =>
      .ok ⟨chained op first.formula others.formulas, others.rest,
        Nat.lt_of_le_of_lt others.notLonger first.shorter⟩
termination_by (tokens.length, match op with | .or => 4 | .and => 2)
decreasing_by
  · cases op <;> simp [Prod.lex_def]
  · simp [Prod.lex_def, first.shorter]

/-- Read the operands that follow, each behind the keyword of `op`. -/
def parseOthers (limit : Option Nat) (depth : Nat) (op : Connective) (tokens : List Token) :
    Except Refusal (Operands tokens) :=
  match tokens with
  | [] => .ok ⟨[], [], Nat.le_refl _⟩
  | t :: rest =>
    if t.lexeme = .keyword op then
      match parseOperand limit depth op rest with
      | .error refusal => .error refusal
      | .ok next =>
        match parseOthers limit depth op next.rest with
        | .error refusal => .error refusal
        | .ok others =>
          .ok ⟨next.formula :: others.formulas, others.rest,
            Nat.le_succ_of_le (Nat.le_trans others.notLonger (Nat.le_of_lt next.shorter))⟩
    else .ok ⟨[], t :: rest, Nat.le_refl _⟩
termination_by (tokens.length, 0)
decreasing_by
  · simp [Prod.lex_def]
  · have := next.shorter
    simp [Prod.lex_def]
    omega

/-- Read one operand of a chain: `and` binds tighter than `or`. -/
def parseOperand (limit : Option Nat) (depth : Nat) (op : Connective) (tokens : List Token) :
    Except Refusal (Parsed tokens) :=
  match op with
  | .or => parseChain limit depth .and tokens
  | .and => parsePrimary limit depth tokens
termination_by (tokens.length, match op with | .or => 3 | .and => 1)
decreasing_by
  · simp [Prod.lex_def]
  · simp [Prod.lex_def]

/-- Read a formula in parentheses or a clause. -/
def parsePrimary (limit : Option Nat) (depth : Nat) (tokens : List Token) :
    Except Refusal (Parsed tokens) :=
  match tokens with
  | [] => parseClause []
  | t :: rest =>
    if t.lexeme = .opening then
      match exceeded? limit (depth + 1) with
      | some max => .error (.tooDeep max)
      | none =>
        match parseChain limit (depth + 1) .or rest with
        | .error refusal => .error refusal
        | .ok inner =>
          match h : inner.rest with
          | [] => .error (.fault (.unclosed t.offset))
          | close :: rest' =>
            if close.lexeme = .closing then
              .ok ⟨inner.formula, rest', by
                have := inner.shorter
                simp only [h, List.length_cons] at this ⊢
                omega⟩
            else .error (.fault (.unexpected close))
    else parseClause (t :: rest)
termination_by (tokens.length, 0)
decreasing_by
  simp [Prod.lex_def]

end

/-- Read a list of tokens as one formula. -/
def ofTokens (limit : Option Nat) (tokens : List Token) : Except Refusal Formula :=
  if tokens.isEmpty then .error (.fault .empty)
  else
    match parseChain limit 0 .or tokens with
    | .error refusal => .error refusal
    | .ok p =>
      match p.rest with
      | [] => .ok p.formula
      | t :: _ => .error (.fault (.unexpected t))

end Formula
end HostFilter
