import HostFilter.Proofs.Formula.Progress
import HostFilter.Proofs.Token.Scanning
import Mathlib

/-!
# What the limits refuse

The limit on the length counts characters and is checked before anything is read.  The
limit on nesting is checked at each opening parenthesis, so it competes with the faults of
the filter: it wins exactly if the tokens in front of the faulty one are nested too deep
somewhere.  Without a violation the limits change nothing.

Main results:

- Theorem `Token.pairwise_offset_of_scan`: the tokens of a text stand in the order of their
  offsets.
- Theorem `Progress.run_limited`: what a limit changes in reading tokens that are all taken
  without it.
- Theorem `ofTokens_limited_ok`, `ofTokens_limited_fault`: what a limit changes in parsing.
- Theorem `read_under_limits`: what the limits refuse, and that nothing else changes.
-/

namespace HostFilter

/-! ## The order of tokens -/

/-- The tokens of a layout stand in the order of their offsets. -/
theorem Layout.pairwise_offset {layout : Layout} (hwell : ∀ l ∈ layout.lexemes, l.WellFormed)
    (offset : Nat) :
    (layout.tokensFrom offset).Pairwise fun t u => t.offset < u.offset := by
  induction layout generalizing offset with
  | done gap => exact List.Pairwise.nil
  | next gap l rest ih =>
    rcases List.forall_mem_cons.mp hwell with ⟨hl, hwell⟩
    refine List.Pairwise.cons ?_ (ih hwell _)
    intro u hu
    rcases exists_text_eq_of_mem_tokensFrom hu with ⟨before, after, -, hoffset⟩
    rcases l.exists_written_eq_cons hl with ⟨c, cs, hcs, -⟩
    have hpos : 0 < c.utf8Size := c.utf8Size_pos
    simp only [hoffset, hcs, Text.byteLength_append, Text.byteLength_cons]
    omega

namespace Token

/-- The tokens of a text stand in the order of their offsets. -/
theorem pairwise_offset_of_scan {filter : String} {tokens : List Token}
    (h : scan filter = .ok tokens) : tokens.Pairwise fun t u => t.offset < u.offset := by
  rcases exists_layout h with ⟨layout, hwrites⟩
  rw [← hwrites.tokens_eq]
  exact layout.pairwise_offset hwrites.wellFormed 0

/-- In order, the tokens with a smaller offset are those in front. -/
theorem takeWhile_offset {before after : List Token} {t : Token}
    (h : (before ++ t :: after).Pairwise fun t u => t.offset < u.offset) :
    (before ++ t :: after).takeWhile (fun u => u.offset < t.offset) = before := by
  have hbefore : ∀ u ∈ before, decide (u.offset < t.offset) = true := by
    intro u hu
    exact decide_eq_true ((List.pairwise_append.mp h).2.2 u hu t List.mem_cons_self)
  rw [List.takeWhile_append_of_pos hbefore]
  simp

/-- Somewhere in the tokens more than `max` parentheses are open. -/
def DeeperThan (max : Nat) (tokens : List Token) : Prop :=
  ∃ before ∈ tokens.inits, max < (unmatched before).length

instance (max : Nat) (tokens : List Token) : Decidable (DeeperThan max tokens) :=
  inferInstanceAs (Decidable (∃ before ∈ tokens.inits, max < (unmatched before).length))

end Token

/-- The tokens in front of the one that a fault is about; all tokens, if it is about their
end. -/
def SyntaxFault.inFront (tokens : List Token) : SyntaxFault → List Token
  | .unexpected t => tokens.takeWhile fun u => u.offset < t.offset
  | .emptyKey offset => tokens.takeWhile fun u => u.offset < offset
  | _ => tokens

namespace Formula

/-! ## Reading under a limit -/

namespace Progress

variable {max : Nat} {s s' : Progress} {t : Token}

/-- A limit that is kept refuses a token that is taken without it exactly if the token opens
one parenthesis too many. -/
theorem Move.step_limited (h : Move none s t s') (hs : s.opened.length ≤ max) :
    s.step (some max) t =
      if max < s'.opened.length then .error (.tooDeep max) else .ok s' := by
  have hkept : s'.opened.length ≤ s.opened.length → Move (some max) s t s' →
      s.step (some max) t =
        if max < s'.opened.length then .error (.tooDeep max) else .ok s' := by
    intro hle hmove
    rw [if_neg (Nat.not_lt.mpr (Nat.le_trans hle hs)), hmove.step]
  cases h with
  | @opening opened t ht =>
    have hexceeded : exceeded? (some max) (opened.length + 1) =
        if max < opened.length + 1 then some max else none := by
      simp [exceeded?, Option.filter_some]
    by_cases hmax : max < opened.length + 1
    · rw [if_pos hmax] at hexceeded
      simp [Progress.step, ht, hexceeded, hmax]
    · rw [if_neg hmax] at hexceeded
      simp [Progress.step, ht, hexceeded, hmax]
  | key ht hne => exact hkept (Nat.le_refl _) (.key ht hne)
  | equals ht => exact hkept (Nat.le_refl _) (.equals ht)
  | value ht => exact hkept (Nat.le_refl _) (.value ht)
  | keyword ht => exact hkept (Nat.le_refl _) (.keyword ht)
  | closing ht => exact hkept (by simp) (.closing ht)

/-- Tokens that are all taken without a limit are taken under a limit that they keep, and
else they are too deep. -/
theorem run_limited {ts : List Token} (h : s.run none ts = .ok s') (hs : s.opened.length ≤ max) :
    s.run (some max) ts =
      if ∃ before ∈ ts.inits, max < (before.foldl Token.unmatchedStep s.opened).length then
        .error (.tooDeep max)
      else .ok s' := by
  induction ts generalizing s with
  | nil =>
    cases h
    simp [run, hs]
  | cons t ts ih =>
    rcases exists_move_of_run_cons h with ⟨s₁, hmove, hrest⟩
    have hfirst : ¬ max < s.opened.length := Nat.not_lt.mpr hs
    have hinits : (∃ before ∈ (t :: ts).inits,
        max < (before.foldl Token.unmatchedStep s.opened).length) ↔
          ∃ before ∈ ts.inits, max < (before.foldl Token.unmatchedStep s₁.opened).length := by
      simp [hfirst, hmove.opened_eq]
    rw [run, hmove.step_limited hs]
    simp only [hinits]
    by_cases hdeep : max < s₁.opened.length
    -- The token itself opens one parenthesis too many: nothing behind it is read.
    · have hnil : ∃ before ∈ ts.inits,
          max < (before.foldl Token.unmatchedStep s₁.opened).length := ⟨[], by simp, hdeep⟩
      simp only [if_pos hdeep, if_pos hnil]
    · simp only [if_neg hdeep]
      exact ih hrest (Nat.not_lt.mp hdeep)

/-- Behind tokens that are all taken without a limit, a limit changes nothing but that they
may be too deep. -/
theorem refusal?_limited {ts us : List Token} (h : start.run none ts = .ok s) :
    start.refusal? (some max) (ts ++ us) =
      if Token.DeeperThan max ts then some (.tooDeep max) else s.refusal? (some max) us := by
  have hrun : start.run (some max) ts =
      if Token.DeeperThan max ts then .error (.tooDeep max) else .ok s :=
    run_limited h (Nat.zero_le max)
  by_cases hdeep : Token.DeeperThan max ts
  · rw [if_pos hdeep] at hrun ⊢
    rw [refusal?, run_append, hrun]
  · rw [if_neg hdeep] at hrun ⊢
    exact refusal?_append hrun us

end Progress

/-! ## Parsing under a limit -/

variable {max : Nat} {tokens : List Token}

/-- What is accepted under a limit is accepted without it, as the same formula. -/
theorem ofTokens_none_of_ok {limit : Option Nat} {f : Formula}
    (h : ofTokens limit tokens = .ok f) : ofTokens none tokens = .ok f := by
  rcases ofTokens_eq_ok h with ⟨p, hp, hrest, rfl⟩
  have hspells := parseChain_spells hp
  rw [hrest] at hspells
  exact ofTokens_eq_ok_iff.mpr hspells.derives

/-- Accepted tokens are refused under a limit exactly if they are too deep. -/
theorem ofTokens_limited_ok {f : Formula} (h : ofTokens none tokens = .ok f) :
    ofTokens (some max) tokens =
      if Token.DeeperThan max tokens then .error (.tooDeep max) else .ok f := by
  have hne : tokens ≠ [] := by
    rintro rfl
    simp [ofTokens] at h
  have hrefusal := exists_ofTokens_eq_ok_iff.mp ⟨f, h⟩
  rcases @Progress.exists_run_of_refusal? none .start tokens [] (by simpa using hrefusal) with
    ⟨s, hrun⟩
  have hlimited := @Progress.refusal?_limited max s tokens [] hrun
  rw [List.append_nil] at hlimited
  by_cases hdeep : Token.DeeperThan max tokens
  · rw [if_pos hdeep] at hlimited ⊢
    exact (ofTokens_eq_error_iff hne).mpr hlimited
  · rw [if_neg hdeep] at hlimited ⊢
    have hend : s.endFault? = none := by
      simpa [Progress.refusal?, hrun] using hrefusal
    rw [Progress.refusal?_nil, hend, Option.map_none] at hlimited
    rcases exists_ofTokens_eq_ok_iff.mpr hlimited with ⟨g, hg⟩
    have hgf := ofTokens_none_of_ok hg
    rw [h] at hgf
    cases hgf
    exact hg

/-- Tokens with a fault are refused for the fault also under a limit, unless the tokens in
front of the faulty one are too deep. -/
theorem ofTokens_limited_fault {fault : SyntaxFault} (hne : tokens ≠ [])
    (horder : tokens.Pairwise fun t u => t.offset < u.offset)
    (h : ofTokens none tokens = .error (.fault fault)) :
    ofTokens (some max) tokens =
      if Token.DeeperThan max (fault.inFront tokens) then .error (.tooDeep max)
      else .error (.fault fault) := by
  have hlimited : Progress.start.refusal? (some max) tokens =
      if Token.DeeperThan max (fault.inFront tokens) then some (.tooDeep max)
      else some (.fault fault) := by
    rcases Progress.exists_of_refusal? ((ofTokens_eq_error_iff hne).mp h) with
      ⟨before, t, after, s, rfl, hrun, hstep⟩ | ⟨s, fault', hrun, hend, hfault⟩
    · -- The token is refused under every limit, if it is reached.
      rcases Progress.step_eq_error hstep with ⟨hfault, hlimit⟩
      have hfront : fault.inFront (before ++ t :: after) = before := by
        rcases hfault with hfault | hfault
        · cases hfault
          exact Token.takeWhile_offset horder
        · cases hfault
          exact Token.takeWhile_offset horder
      rw [hfront, Progress.refusal?_limited hrun,
        Progress.refusal?_of_error (hlimit (some max))]
    · cases hfault
      have hfront : fault.inFront tokens = tokens := by
        rcases Progress.endFault?_eq_some hend with ⟨-, missing, rfl⟩ | ⟨-, _, _, -, rfl⟩
        · rfl
        · rfl
      have hall := @Progress.refusal?_limited max s tokens [] hrun
      rw [List.append_nil, Progress.refusal?_nil, hend] at hall
      rw [hfront, hall, Option.map_some]
  by_cases hdeep : Token.DeeperThan max (fault.inFront tokens)
  · rw [if_pos hdeep] at hlimited ⊢
    exact (ofTokens_eq_error_iff hne).mpr hlimited
  · rw [if_neg hdeep] at hlimited ⊢
    exact (ofTokens_eq_error_iff hne).mpr hlimited

/-- Tokens that are refused without a limit have a fault, and if there are tokens, another
one than that there are none.  It is never that a group has no members. -/
theorem exists_fault_of_error {r : Refusal} (hne : tokens ≠ [])
    (h : ofTokens none tokens = .error r) :
    ∃ fault, r = .fault fault ∧ fault ≠ .empty ∧ fault ≠ .emptyGroup := by
  rcases Progress.exists_of_refusal? ((ofTokens_eq_error_iff hne).mp h) with
    ⟨_, t, _, s, rfl, -, hstep⟩ | ⟨s, fault, -, hend, rfl⟩
  · rcases (Progress.step_eq_error hstep).1 with rfl | rfl
    · exact ⟨.unexpected t, rfl, by simp⟩
    · exact ⟨.emptyKey t.offset, rfl, by simp⟩
  · refine ⟨fault, rfl, ?_⟩
    rcases Progress.endFault?_eq_some hend with ⟨-, missing, rfl⟩ | ⟨-, _, _, -, rfl⟩
    · simp
    · simp

/-! ## Texts under limits -/

/-- What a limit on nesting makes of the outcome that a filter has without it: the first
outcome is the one without the limit, the second the one under it. -/
inductive LimitedOutcome (max : Nat) (filter : String) :
    Except FilterError Formula → Except FilterError Formula → Prop where
  /-- A quote without a partner is found before any nesting. -/
  | openQuote {offset : Nat} (hscan : Token.scan filter = .error offset) :
      LimitedOutcome max filter (.error (.malformed filter (.openQuote offset)))
        (.error (.malformed filter (.openQuote offset)))
  /-- Without tokens there is no nesting. -/
  | empty (hscan : Token.scan filter = .ok []) :
      LimitedOutcome max filter (.error (.malformed filter .empty))
        (.error (.malformed filter .empty))
  /-- A formula stays, unless its tokens are nested too deep. -/
  | accepted {tokens : List Token} {f : Formula} (hscan : Token.scan filter = .ok tokens) :
      LimitedOutcome max filter (.ok f)
        (if Token.DeeperThan max tokens then .error (.limitExceeded .nesting max) else .ok f)
  /-- Any other fault stays, unless the tokens in front of it are nested too deep. -/
  | fault {tokens : List Token} {fault : SyntaxFault} (hscan : Token.scan filter = .ok tokens)
      (hne : fault ≠ .empty) :
      LimitedOutcome max filter (.error (.malformed filter fault))
        (if Token.DeeperThan max (fault.inFront tokens) then .error (.limitExceeded .nesting max)
          else .error (.malformed filter fault))

/-- The outcome under a limit is determined by the one without. -/
theorem LimitedOutcome.unique {max : Nat} {filter : String}
    {r r₁ r₂ : Except FilterError Formula} (h₁ : LimitedOutcome max filter r r₁)
    (h₂ : LimitedOutcome max filter r r₂) : r₁ = r₂ := by
  cases h₁ with
  | openQuote hscan =>
    cases h₂ with
    | openQuote _ => rfl
    | fault hscan' _ => simp [hscan] at hscan'
  | empty hscan =>
    cases h₂ with
    | empty _ => rfl
    | fault _ hne => exact absurd rfl hne
  | accepted hscan =>
    cases h₂ with
    | accepted hscan' =>
      rw [hscan] at hscan'
      cases hscan'
      rfl
  | fault hscan hne =>
    cases h₂ with
    | openQuote hscan' => simp [hscan] at hscan'
    | empty _ => exact absurd rfl hne
    | fault hscan' _ =>
      rw [hscan] at hscan'
      cases hscan'
      rfl

/-- A limit on nesting changes the outcome of parsing in this way and in no other. -/
theorem parse_limited (max : Nat) (filter : String) :
    LimitedOutcome max filter (parse none filter) (parse (some max) filter) := by
  cases hscan : Token.scan filter with
  | error offset =>
    simp only [parse, hscan]
    exact .openQuote hscan
  | ok tokens =>
    simp only [parse, hscan]
    by_cases hne : tokens = []
    · subst hne
      exact .empty hscan
    · cases hresult : ofTokens none tokens with
      | ok f =>
        have hlimited := @LimitedOutcome.accepted max filter tokens f hscan
        rw [ofTokens_limited_ok hresult]
        by_cases hdeep : Token.DeeperThan max tokens
        · simpa only [if_pos hdeep] using hlimited
        · simpa only [if_neg hdeep] using hlimited
      | error r =>
        rcases exists_fault_of_error hne hresult with ⟨fault, rfl, hfault, -⟩
        have hlimited := @LimitedOutcome.fault max filter tokens fault hscan hfault
        rw [ofTokens_limited_fault hne (Token.pairwise_offset_of_scan hscan) hresult]
        by_cases hdeep : Token.DeeperThan max (fault.inFront tokens)
        · simpa only [if_pos hdeep] using hlimited
        · simpa only [if_neg hdeep] using hlimited

/-- Parsing never complains about the length. -/
theorem parse_ne_length (limit : Option Nat) (filter : String) (max : Nat) :
    parse limit filter ≠ .error (.limitExceeded .length max) := by
  unfold parse
  split
  · simp
  · split <;> simp

/-- A text that is not too long is read as it is parsed. -/
theorem read_of_length_le {settings : Settings} {filter : String}
    (h : ∀ max ∈ settings.maxLength, filter.length ≤ max) :
    read settings filter = parse settings.maxDepth filter := by
  unfold read
  split
  · rename_i max hmax
    exact if_neg (Nat.not_lt.mpr (h max hmax))
  · rfl

/-- The length is at fault exactly if it is limited and there are more characters. -/
theorem read_eq_length_iff (settings : Settings) (filter : String) (max : Nat) :
    read settings filter = .error (.limitExceeded .length max) ↔
      settings.maxLength = some max ∧ max < filter.length := by
  constructor
  · intro h
    unfold read at h
    split at h
    · rename_i max' hmax
      split at h
      · rename_i hlong
        cases h
        exact ⟨hmax, hlong⟩
      · exact absurd h (parse_ne_length _ _ _)
    · exact absurd h (parse_ne_length _ _ _)
  · rintro ⟨hmax, hlong⟩
    simp [read, hmax, hlong]

/-- What the limits refuse, and that they change nothing else.  The limit on the length
refuses exactly the filters with more characters, whatever they are; of any other filter the
limit on nesting keeps the outcome, unless more parentheses are open than it allows somewhere
in the tokens, and in front of the faulty token if there is one. -/
theorem read_under_limits (settings : Settings) (filter : String) :
    (∀ max, read settings filter = .error (.limitExceeded .length max) ↔
      settings.maxLength = some max ∧ max < filter.length) ∧
      ((∀ max ∈ settings.maxLength, filter.length ≤ max) →
        (settings.maxDepth = none → read settings filter = parse none filter) ∧
          ∀ max ∈ settings.maxDepth,
            LimitedOutcome max filter (parse none filter) (read settings filter)) := by
  refine ⟨read_eq_length_iff settings filter, ?_⟩
  intro hlength
  rw [read_of_length_le hlength]
  constructor
  · intro hdepth
    rw [hdepth]
  · intro max hdepth
    rw [Option.mem_def.mp hdepth]
    exact parse_limited max filter

/-- Fifteen characters in sixteen bytes are not too long, and nesting behind the faulty word
does not count; nesting in front of it does. -/
theorem read_under_limits_behind_fault :
    read { maxLength := some 15, maxDepth := some 1 } "(é=1) b ((c=2))" =
        .error (.malformed "(é=1) b ((c=2))" (.unexpected ⟨.word (.bare "b"), 7⟩)) ∧
      read { maxLength := some 15, maxDepth := some 1 } "((a=1) b" =
        .error (.limitExceeded .nesting 1) := by
  constructor
  · have hlength : ∀ max ∈ some 15, "(é=1) b ((c=2))".length ≤ max := by
      rintro max ⟨⟩
      decide
    have hscan : Token.scan "(é=1) b ((c=2))" = .ok [⟨.opening, 0⟩, ⟨.word (.bare "é"), 1⟩,
        ⟨.equals, 3⟩, ⟨.word (.bare "1"), 4⟩, ⟨.closing, 5⟩, ⟨.word (.bare "b"), 7⟩,
          ⟨.opening, 9⟩, ⟨.opening, 10⟩, ⟨.word (.bare "c"), 11⟩, ⟨.equals, 12⟩,
            ⟨.word (.bare "2"), 13⟩, ⟨.closing, 14⟩, ⟨.closing, 15⟩] := by
      cbv
    have hparse : parse none "(é=1) b ((c=2))" =
        .error (.malformed "(é=1) b ((c=2))" (.unexpected ⟨.word (.bare "b"), 7⟩)) := by
      cbv
    have houtcome := ((read_under_limits { maxLength := some 15, maxDepth := some 1 }
      "(é=1) b ((c=2))").2 hlength).2 1 rfl
    rw [hparse] at houtcome
    exact houtcome.unique (.fault hscan (by simp))
  · have hlength : ∀ max ∈ some 15, "((a=1) b".length ≤ max := by
      rintro max ⟨⟩
      decide
    have hscan : Token.scan "((a=1) b" = .ok [⟨.opening, 0⟩, ⟨.opening, 1⟩,
        ⟨.word (.bare "a"), 2⟩, ⟨.equals, 3⟩, ⟨.word (.bare "1"), 4⟩, ⟨.closing, 5⟩,
          ⟨.word (.bare "b"), 7⟩] := by
      cbv
    have hparse : parse none "((a=1) b" =
        .error (.malformed "((a=1) b" (.unexpected ⟨.word (.bare "b"), 7⟩)) := by
      cbv
    have houtcome := ((read_under_limits { maxLength := some 15, maxDepth := some 1 }
      "((a=1) b").2 hlength).2 1 rfl
    rw [hparse] at houtcome
    exact houtcome.unique (.fault hscan (by simp))

end Formula
end HostFilter
