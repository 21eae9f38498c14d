import HostFilter.Proofs.Formula.Cursor

/-!
# What a run does to the cursor

A run that reads a phrase moves the cursor over the phrase and changes nothing else: the depth
counts the parentheses inside the phrase up and down and is back where it was.  Every phrase
has three tokens or more, so the cursor has moved, and it stays among the tokens.

The routines call each other in a circle that takes no token until it comes to an opening
parenthesis, and a chain starts over behind each keyword.  Both take a token, so a routine
that is reached again is reached further along the tokens.

Main results:

- Theorem `advanced_of_read`: what reading a phrase does to the cursor.
- Theorem `exists_calls_of_unended`: a run has no ending only if a call that it makes has none.
- Theorem `Calls.further`: a call goes further along the tokens, or to a routine that binds
  tighter.
- Theorem `read_bookkeeping`: with enough calls runs end, they move the cursor over what they
  read and restore the depth, and no routine comes back to where it was.
-/

namespace HostFilter

/-- A phrase that was read is a phrase of its tier. -/
theorem Formula.parseTier_spells {limit : Option Nat} {depth : Nat} {tier : Tier}
    {tokens : List Token} {p : Parsed tokens} (h : parseTier limit depth tier tokens = .ok p) :
    Spells tier tokens p.rest p.formula := by
  cases tier with
  | chain op => exact parseChain_spells h
  | primary => exact parsePrimary_spells h

/-- A phrase that was read stops where its tier ends. -/
theorem Formula.parseTier_ends {limit : Option Nat} {depth : Nat} {tier : Tier}
    {tokens : List Token} {p : Parsed tokens} (h : parseTier limit depth tier tokens = .ok p) :
    tier.Ends p.rest := by
  cases tier with
  | chain op => exact parseChain_ends h
  | primary => simp [Tier.Ends, Tier.joints]

namespace Cursor

open Formula

/-- The tokens between the cursor and a position. -/
def upTo (s : Cursor) (position : Nat) : List Token :=
  s.rest.take (position - s.position)

/-- From the first cursor to the second one a phrase of the tier has been read: nothing has
changed but the position, which is three tokens further or more and not behind the end; the
parentheses in between are balanced; and no keyword comes next that the phrase could have gone
on with. -/
structure Advanced (tier : Tier) (s s' : Cursor) : Prop where
  tokens_eq : s'.tokens = s.tokens
  limit_eq : s'.limit = s.limit
  depth_eq : s'.depth = s.depth
  three_le : s.position + 3 ≤ s'.position
  le_length : s'.position ≤ s.tokens.length
  balanced : Lexeme.Balanced ((s.upTo s'.position).map Token.lexeme)
  ends : tier.Ends s'.rest

variable {calls : Nat} {tier : Tier} {op : Connective} {s s' : Cursor} {t : Token} {f : Formula}

theorem Advanced.position_lt (h : Advanced tier s s') : s.position < s'.position := by
  have hthree := h.three_le
  omega

/-- Going over a phrase in front of where its tier ends. -/
theorem advanced_skip {rest : List Token} (hspells : Spells tier s.rest rest f)
    (hends : tier.Ends rest) : Advanced tier s (s.skip (s.rest.length - rest.length)) := by
  have hbehind := rest_skip_of_spells rfl hspells
  rcases hspells with ⟨used, hused, hderives⟩
  have hlength : s.rest.length - rest.length = used.length := by simp [hused]
  have hthree : 3 ≤ used.length := by simpa using hderives.three_le_length
  have hbound : used.length + rest.length = s.tokens.length - s.position := by
    rw [← List.length_append, ← hused, Cursor.rest, List.length_drop]
  rw [hlength] at hbehind ⊢
  exact {
    tokens_eq := rfl
    limit_eq := rfl
    depth_eq := rfl
    three_le := Nat.add_le_add_left hthree _
    le_length := by
      simp only [skip]
      omega
    balanced := by
      have hupTo : s.upTo (s.skip used.length).position = used := by
        simp [upTo, skip, hused]
      rw [hupTo]
      exact hderives.balanced
    ends := by rwa [hbehind] }

/-- Reading a phrase moves the cursor over it. -/
theorem advanced_of_read (h : s.read calls tier = some (.ok (f, s'))) :
    Advanced tier s s' := by
  have hend := (read_outcome calls tier s).eq_of_some h
  cases hparse : parseTier s.limit s.depth tier s.rest with
  | error refusal => simp [hparse, Except.map] at hend
  | ok p =>
    obtain rfl : s' = s.skip (s.rest.length - p.rest.length) := by
      simp only [hparse, Except.map, landed, Except.ok.injEq, Prod.mk.injEq] at hend
      exact hend.2
    exact advanced_skip (parseTier_spells hparse) (parseTier_ends hparse)

/-- An operand is a phrase of the operands' tier. -/
theorem advanced_of_readOperand (h : readOperand calls op s = some (.ok (f, s'))) :
    Advanced op.operandTier s s' := by
  cases calls with
  | zero => simp [readOperand] at h
  | succ calls =>
    have hread : s.read calls op.operandTier = some (.ok (f, s')) := by
      cases op <;> exact h
    exact advanced_of_read hread

/-- A token that is taken is one of the tokens, and the cursor is behind it. -/
theorem advance_eq_some (h : s.advance = some (t, s')) :
    s.position < s.tokens.length ∧ s' = s.skip 1 := by
  rcases Option.map_eq_some_iff.mp h with ⟨u, hu, heq⟩
  cases heq
  exact ⟨(List.getElem?_eq_some_iff.mp hu).1, rfl⟩

/-! ## Routines that call each other -/

/-- The routines of a run that call each other. -/
inductive Routine where
  | chain (op : Connective)
  | others (op : Connective)
  | operand (op : Connective)
  | primary

/-- `Calls (r, s) (r', s')`: a run of the routine `r` from the cursor `s` comes to call the
routine `r'` at the cursor `s'`. -/
inductive Calls : Routine × Cursor → Routine × Cursor → Prop where
  /-- A chain reads its first operand. -/
  | first {op : Connective} {s : Cursor} : Calls (.chain op, s) (.operand op, s)
  /-- Behind its first operand a chain reads the others. -/
  | others {calls : Nat} {op : Connective} {s s₁ : Cursor} {f : Formula}
      (hfirst : readOperand calls op s = some (.ok (f, s₁))) :
      Calls (.chain op, s) (.others op, s₁)
  /-- Behind a keyword an operand is read. -/
  | next {op : Connective} {s s₁ : Cursor} {t : Token} (ht : s.advance = some (t, s₁))
      (hkeyword : t.lexeme = .keyword op) : Calls (.others op, s) (.operand op, s₁)
  /-- Behind that operand the loop goes on. -/
  | again {calls : Nat} {op : Connective} {s s₁ s₂ : Cursor} {t : Token} {f : Formula}
      (ht : s.advance = some (t, s₁)) (hkeyword : t.lexeme = .keyword op)
      (hnext : readOperand calls op s₁ = some (.ok (f, s₂))) :
      Calls (.others op, s) (.others op, s₂)
  /-- The operands of an `or` chain are `and` chains. -/
  | tighter {s : Cursor} : Calls (.operand .or, s) (.chain .and, s)
  /-- The operands of an `and` chain are primaries. -/
  | tightest {s : Cursor} : Calls (.operand .and, s) (.primary, s)
  /-- In parentheses stands a chain, if they are not too deep. -/
  | inner {s s₁ : Cursor} {t : Token} (ht : s.advance = some (t, s₁))
      (hopening : t.lexeme = .opening)
      (hlimit : exceeded? s₁.enter.limit s₁.enter.depth = none) :
      Calls (.primary, s) (.chain .or, s₁.enter)

/-- With so many calls inside each other a run of the routine has no ending. -/
def Routine.Unended (calls : Nat) : Routine → Cursor → Prop
  | .chain op, s => readChain calls op s = none
  | .others op, s => readOthers calls op s = none
  | .operand op, s => readOperand calls op s = none
  | .primary, s => readPrimary calls s = none

/-- A run has no ending only if a call that it makes has none. -/
theorem exists_calls_of_unended {r : Routine} (h : r.Unended (calls + 1) s) :
    ∃ r' s', Calls (r, s) (r', s') ∧ r'.Unended calls s' := by
  cases r with
  | chain op =>
    rw [Routine.Unended, readChain] at h
    cases hfirst : readOperand calls op s with
    | none => exact ⟨_, _, .first, hfirst⟩
    | some first =>
      rcases first with refusal | ⟨f, s₁⟩
      · simp [hfirst] at h
      · cases hothers : readOthers calls op s₁ with
        | none => exact ⟨_, _, .others hfirst, hothers⟩
        | some others => rcases others with refusal | ⟨fs, s₂⟩ <;> simp [hfirst, hothers] at h
  | others op =>
    rw [Routine.Unended, readOthers] at h
    cases ht : s.advance with
    | none => simp [ht] at h
    | some taken =>
      rcases taken with ⟨t, s₁⟩
      by_cases hkeyword : t.lexeme = .keyword op
      · cases hnext : readOperand calls op s₁ with
        | none => exact ⟨_, _, .next ht hkeyword, hnext⟩
        | some next =>
          rcases next with refusal | ⟨f, s₂⟩
          · simp [ht, hkeyword, hnext] at h
          · cases hothers : readOthers calls op s₂ with
            | none => exact ⟨_, _, .again ht hkeyword hnext, hothers⟩
            | some others =>
              rcases others with refusal | ⟨fs, s₃⟩ <;>
                simp [ht, hkeyword, hnext, hothers] at h
      · simp [ht, hkeyword] at h
  | operand op =>
    cases op with
    | or => exact ⟨_, _, .tighter, h⟩
    | and => exact ⟨_, _, .tightest, h⟩
  | primary =>
    rw [Routine.Unended, readPrimary] at h
    cases ht : s.advance with
    | none => simp [ht] at h
    | some taken =>
      rcases taken with ⟨t, s₁⟩
      by_cases hopening : t.lexeme = .opening
      · simp only [ht, if_pos hopening] at h
        cases hlimit : exceeded? s₁.enter.limit s₁.enter.depth with
        | some max =>
          rw [hlimit] at h
          cases h
        | none =>
          rw [hlimit] at h
          cases hinner : readChain calls .or s₁.enter with
          | none => exact ⟨_, _, .inner ht hopening hlimit, hinner⟩
          | some inner => rcases inner with refusal | ⟨f, s₂⟩ <;> simp [hinner] at h
      · simp [ht, hopening] at h

/-- How loose a routine binds that has taken no token yet. -/
def Routine.looseness : Routine → Nat
  | .chain .or => 4
  | .operand .or => 3
  | .chain .and => 2
  | .operand .and => 1
  | .primary => 0
  | .others _ => 0

/-- The second call is further along the same tokens, or at the same place and tighter. -/
def Further (c c' : Routine × Cursor) : Prop :=
  c'.2.tokens = c.2.tokens ∧
    (c.2.position < c'.2.position ∧ c'.2.position ≤ c.2.tokens.length ∨
      c'.2.position = c.2.position ∧ c'.1.looseness < c.1.looseness)

theorem Further.trans {c c' c'' : Routine × Cursor} (h : Further c c') (h' : Further c' c'') :
    Further c c'' := by
  rcases h with ⟨htokens, hfurther⟩
  rcases h' with ⟨htokens', hfurther'⟩
  rw [htokens] at htokens' hfurther'
  refine ⟨htokens', ?_⟩
  omega

/-- A call is further along the tokens, or it is tighter. -/
theorem Calls.further {c c' : Routine × Cursor} (h : Calls c c') : Further c c' := by
  cases h with
  | @first op s =>
    refine ⟨rfl, .inr ⟨rfl, ?_⟩⟩
    cases op <;> simp [Routine.looseness]
  | others hfirst =>
    have hadvanced := advanced_of_readOperand hfirst
    exact ⟨hadvanced.tokens_eq, .inl ⟨hadvanced.position_lt, hadvanced.le_length⟩⟩
  | next ht hkeyword =>
    rcases advance_eq_some ht with ⟨hlt, rfl⟩
    exact ⟨rfl, .inl ⟨Nat.lt_succ_self _, hlt⟩⟩
  | again ht hkeyword hnext =>
    rcases advance_eq_some ht with ⟨hlt, rfl⟩
    have hadvanced := advanced_of_readOperand hnext
    exact ⟨hadvanced.tokens_eq,
      .inl ⟨Nat.lt_of_succ_lt hadvanced.position_lt, hadvanced.le_length⟩⟩
  | tighter => exact ⟨rfl, .inr ⟨rfl, by simp [Routine.looseness]⟩⟩
  | tightest => exact ⟨rfl, .inr ⟨rfl, by simp [Routine.looseness]⟩⟩
  | inner ht hopening hlimit =>
    rcases advance_eq_some ht with ⟨hlt, rfl⟩
    exact ⟨rfl, .inl ⟨Nat.lt_succ_self _, hlt⟩⟩

/-- So is whatever is called in the course of a call. -/
theorem further_of_transGen {c c' : Routine × Cursor} (h : Relation.TransGen Calls c c') :
    Further c c' := by
  induction h with
  | single hcall => exact hcall.further
  | tail _ hcall ih => exact ih.trans hcall.further

/-- A routine that is reached again is reached further along the tokens. -/
theorem position_lt_of_transGen {r : Routine}
    (h : Relation.TransGen Calls (r, s) (r, s')) :
    s.position < s'.position ∧ s'.position ≤ s.tokens.length := by
  rcases further_of_transGen h with ⟨-, hfurther | ⟨-, hloose⟩⟩
  · exact hfurther
  · exact absurd hloose (Nat.lt_irrefl _)

/-- From every cursor a run that may make enough calls inside each other comes to an end, as the
parser does on the tokens in front of the cursor.  If a run has read a phrase, the cursor is
three tokens further or more and not behind the end, the depth is what it was, the parentheses
that were read are balanced, and no keyword comes next that the phrase could have gone on with.
A run has no ending only if a call that it makes has none, and in the course of its calls a
routine, and so a turn of the loop over operands, comes back only further along the tokens.  All
tokens are read to an end, as the parser reads them. -/
theorem read_bookkeeping :
    (∀ (tier : Tier) (s : Cursor) (calls : Nat), 5 * s.rest.length + 4 < calls →
      s.read calls tier = some ((parseTier s.limit s.depth tier s.rest).map s.landed)) ∧
      (∀ (calls : Nat) (tier : Tier) (s s' : Cursor) (f : Formula),
        s.read calls tier = some (.ok (f, s')) → Advanced tier s s') ∧
      (∀ (calls : Nat) (r : Routine) (s : Cursor), r.Unended (calls + 1) s →
        ∃ r' s', Calls (r, s) (r', s') ∧ r'.Unended calls s') ∧
      (∀ (r : Routine) (s s' : Cursor), Relation.TransGen Calls (r, s) (r, s') →
        s.position < s'.position ∧ s'.position ≤ s.tokens.length) ∧
      ∀ (limit : Option Nat) (tokens : List Token) (calls : Nat), 5 * tokens.length + 4 < calls →
        readTokens calls limit tokens = some (ofTokens limit tokens) :=
  ⟨fun tier s _ => read_eq tier s, fun _ _ _ _ _ => advanced_of_read,
    fun _ _ _ => exists_calls_of_unended, fun _ _ _ => position_lt_of_transGen,
    fun limit tokens _ => readTokens_eq limit tokens⟩

/-- In `x (a=1) and b=2 or`, behind the first token and five parentheses deep: the `and` chain
ends in front of `or`, as deep as it started; with a single call it has no ending, for want of its
first operand; and inside the parentheses a chain is called one token further and one parenthesis
deeper.  All tokens are refused at the parenthesis. -/
theorem read_bookkeeping_parens :
    ∃ tokens : List Token,
      read 55 (.chain .and) ⟨tokens, 1, 5, some 6⟩ =
          some (.ok (.group .and [.clause ⟨.bare "a", .bare "1"⟩, .clause ⟨.bare "b", .bare "2"⟩],
            ⟨tokens, 10, 5, some 6⟩)) ∧
        Advanced (.chain .and) ⟨tokens, 1, 5, some 6⟩ ⟨tokens, 10, 5, some 6⟩ ∧
        (∃ r' s', Calls (.chain .and, ⟨tokens, 1, 5, some 6⟩) (r', s') ∧ r'.Unended 0 s') ∧
        Relation.TransGen Calls (.chain .or, ⟨tokens, 1, 5, some 6⟩)
          (.chain .or, ⟨tokens, 2, 6, some 6⟩) ∧
        (1 < 2 ∧ 2 ≤ tokens.length) ∧
        readTokens 60 (some 6) tokens = some (.error (.fault (.unexpected ⟨.opening, 2⟩))) := by
  let tokens : List Token := [⟨.word (.bare "x"), 0⟩, ⟨.opening, 2⟩, ⟨.word (.bare "a"), 3⟩,
    ⟨.equals, 4⟩, ⟨.word (.bare "1"), 5⟩, ⟨.closing, 6⟩, ⟨.keyword .and, 8⟩,
    ⟨.word (.bare "b"), 12⟩, ⟨.equals, 13⟩, ⟨.word (.bare "2"), 14⟩, ⟨.keyword .or, 16⟩]
  rcases read_bookkeeping with ⟨hend, hadvanced, hunended, hfurther, hall⟩
  have hread : read 55 (.chain .and) ⟨tokens, 1, 5, some 6⟩ =
      some (.ok (.group .and [.clause ⟨.bare "a", .bare "1"⟩, .clause ⟨.bare "b", .bare "2"⟩],
        ⟨tokens, 10, 5, some 6⟩)) := by
    rw [hend _ _ _ (by decide)]
    cbv
  have hopening : Calls (.primary, ⟨tokens, 1, 5, some 6⟩) (.chain .or, ⟨tokens, 2, 6, some 6⟩) :=
    @Calls.inner ⟨tokens, 1, 5, some 6⟩ ⟨tokens, 2, 5, some 6⟩ ⟨.opening, 2⟩ rfl rfl rfl
  have hinner : Relation.TransGen Calls (.chain .or, ⟨tokens, 1, 5, some 6⟩)
      (.chain .or, ⟨tokens, 2, 6, some 6⟩) :=
    ((((Relation.TransGen.single .first).tail .tighter).tail .first).tail .tightest).tail hopening
  have htokens : readTokens 60 (some 6) tokens =
      some (.error (.fault (.unexpected ⟨.opening, 2⟩))) := by
    rw [hall _ _ _ (by decide)]
    cbv
  exact ⟨tokens, hread, hadvanced _ _ _ _ _ hread, hunended _ _ _ rfl, hinner,
    hfurther _ _ _ hinner, htokens⟩

end Cursor
end HostFilter
