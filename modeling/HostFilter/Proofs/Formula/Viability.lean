import HostFilter.Proofs.Formula.Progress
import Mathlib

/-!
# Faults point at the first hopeless token

Lexemes are valid if they spell a filter, and viable if more lexemes can make them valid.
Whatever has been read without a refusal can be completed: what has to come next is put
there, and the open parentheses are closed.  A token that is refused is refused whatever
follows it.  So the parser gives up exactly at the first token that makes the tokens
hopeless, and if there is none, at their end.

Main results:

- Theorem `Progress.refusal?_completion`: every progress can be completed.
- Theorem `viable_iff`: tokens are viable exactly if all of them are taken.
- Theorem `endsOperand_iff`: the last token completes an operand exactly if a keyword or a
  closing parenthesis has to come next.
- Theorem `parse_error_at_first_hopeless_token`: where the fault of a text points.
-/

namespace HostFilter
namespace Formula

/-! ## Valid and viable lexemes -/

/-- The lexemes spell a filter. -/
def Valid (ls : List Lexeme) : Prop :=
  ∃ f, Derives (.chain .or) ls f

/-- The lexemes spell a filter with more lexemes behind them. -/
def Viable (ls : List Lexeme) : Prop :=
  ∃ ms, Valid (ls ++ ms)

/-- What stands in front of viable lexemes is viable. -/
theorem Viable.front {ls ms : List Lexeme} (h : Viable (ls ++ ms)) : Viable ls := by
  rcases h with ⟨ns, hns⟩
  exact ⟨ms ++ ns, by rwa [← List.append_assoc]⟩

/-- Tokens are valid exactly if going through them refuses nothing. -/
theorem valid_iff {tokens : List Token} :
    Valid (tokens.map Token.lexeme) ↔ Progress.start.refusal? none tokens = none := by
  rw [← exists_ofTokens_eq_ok_iff]
  simp only [Valid, ofTokens_eq_ok_iff]

namespace Progress

variable {limit : Option Nat}

/-- What completes an operand that has been begun. -/
def completionOf : Expected → List Token
  | .operand => [⟨.word (.bare "a"), 0⟩, ⟨.equals, 0⟩, ⟨.word (.bare "a"), 0⟩]
  | .equals => [⟨.equals, 0⟩, ⟨.word (.bare "a"), 0⟩]
  | .value => [⟨.word (.bare "a"), 0⟩]
  | .joint => []

/-- What completes the operand that has been begun and closes the open parentheses. -/
def completion (s : Progress) : List Token :=
  completionOf s.expected ++ List.replicate s.opened.length ⟨.closing, 0⟩

/-- Behind an operand it is enough to close the open parentheses. -/
theorem refusal?_closings (opened : List Token) :
    refusal? limit ⟨.joint, opened⟩ (List.replicate opened.length ⟨.closing, 0⟩) = none := by
  induction opened with
  | nil => rfl
  | cons o outer ih =>
    have hclose : Move limit ⟨.joint, o :: outer⟩ ⟨.closing, 0⟩ ⟨.joint, outer⟩ := .closing rfl
    rw [List.length_cons, List.replicate_succ, hclose.refusal?, ih]

/-- Every progress can be completed. -/
theorem refusal?_completion (s : Progress) : s.refusal? limit s.completion = none := by
  rcases s with ⟨expected, opened⟩
  have hkey : Move limit ⟨.operand, opened⟩ ⟨.word (.bare "a"), 0⟩ ⟨.equals, opened⟩ :=
    .key rfl (by decide)
  have hequals : Move limit ⟨.equals, opened⟩ ⟨.equals, 0⟩ ⟨.value, opened⟩ := .equals rfl
  have hvalue : Move limit ⟨.value, opened⟩ ⟨.word (.bare "a"), 0⟩ ⟨.joint, opened⟩ := .value rfl
  have hclosings := @refusal?_closings limit opened
  cases expected with
  | operand =>
    simpa [completion, completionOf, hkey.refusal?, hequals.refusal?, hvalue.refusal?]
      using hclosings
  | equals => simpa [completion, completionOf, hequals.refusal?, hvalue.refusal?] using hclosings
  | value => simpa [completion, completionOf, hvalue.refusal?] using hclosings
  | joint => simpa [completion, completionOf] using hclosings

end Progress

/-- Tokens are viable exactly if all of them are taken. -/
theorem viable_iff {tokens : List Token} :
    Viable (tokens.map Token.lexeme) ↔ ∃ s, Progress.start.run none tokens = .ok s := by
  constructor
  · rintro ⟨ms, hvalid⟩
    -- The lexemes that follow are those of some tokens; their offsets do not matter.
    obtain ⟨us, rfl⟩ : ∃ us : List Token, us.map Token.lexeme = ms :=
      ⟨ms.map (⟨·, 0⟩), by simp [Function.comp_def]⟩
    rw [← List.map_append, valid_iff] at hvalid
    exact Progress.exists_run_of_refusal? hvalid
  · rintro ⟨s, hrun⟩
    refine ⟨s.completion.map Token.lexeme, ?_⟩
    rw [← List.map_append, valid_iff, Progress.refusal?_append hrun]
    exact s.refusal?_completion

/-! ## Where a list of tokens breaks off -/

/-- The last lexeme completes an operand: it is a closing parenthesis, or a value, that is
a word behind an equals sign. -/
def EndsOperand (ls : List Lexeme) : Prop :=
  ls.getLast? = some .closing ∨
    ∃ (before : List Lexeme) (v : Lexeme) (value : Word),
      ls = before ++ [.equals, v] ∧ v.asWord? = some value

/-- With one more lexeme the last one is that lexeme, and a value if an equals sign is in
front of it. -/
theorem endsOperand_concat (ls : List Lexeme) (l : Lexeme) :
    EndsOperand (ls ++ [l]) ↔
      l = .closing ∨ ls.getLast? = some .equals ∧ ∃ value, l.asWord? = some value := by
  rw [EndsOperand, List.getLast?_concat, Option.some_inj]
  apply or_congr_right
  constructor
  · rintro ⟨before, v, value, hls, hvalue⟩
    rw [List.append_cons before] at hls
    rcases List.append_inj' hls rfl with ⟨rfl, hl⟩
    rw [List.singleton_inj.mp hl]
    exact ⟨List.getLast?_concat, value, hvalue⟩
  · rintro ⟨hequals, value, hvalue⟩
    rcases List.getLast?_eq_some_iff.mp hequals with ⟨before, rfl⟩
    exact ⟨before, l, value, by simp, hvalue⟩

/-- A value has to come next exactly if the last token is an equals sign. -/
theorem expected_eq_value_iff {tokens : List Token} {s : Progress}
    (h : Progress.start.run none tokens = .ok s) :
    s.expected = .value ↔ (tokens.map Token.lexeme).getLast? = some .equals := by
  rcases List.eq_nil_or_concat' tokens with rfl | ⟨before, t, rfl⟩
  · cases h
    simp [Progress.start]
  · rcases Progress.exists_move_of_run_concat h with ⟨s₁, -, hmove⟩
    rw [hmove.expected_eq_value_iff, List.map_append, List.map_singleton, List.getLast?_concat,
      Option.some_inj]

/-- The last token completes an operand exactly if a keyword or a closing parenthesis has
to come next. -/
theorem endsOperand_iff {tokens : List Token} {s : Progress}
    (h : Progress.start.run none tokens = .ok s) :
    EndsOperand (tokens.map Token.lexeme) ↔ s.expected = .joint := by
  rcases List.eq_nil_or_concat' tokens with rfl | ⟨before, t, rfl⟩
  · cases h
    simp [Progress.start, EndsOperand]
  · rcases Progress.exists_move_of_run_concat h with ⟨s₁, hrun, hmove⟩
    rw [List.map_append, List.map_singleton, endsOperand_concat, hmove.expected_eq_joint_iff,
      expected_eq_value_iff hrun]

/-- The offset is that of the first hopeless token: what stands in front of the token is
viable, and with the token it is not. -/
def HopelessAt (tokens : List Token) (offset : Nat) : Prop :=
  ∃ (before : List Token) (t : Token) (after : List Token), tokens = before ++ t :: after ∧
    Viable (before.map Token.lexeme) ∧ ¬ Viable ((before ++ [t]).map Token.lexeme) ∧
      offset = t.offset

/-- The tokens are viable and not valid, and the offset is that of the innermost open
parenthesis if the last token completes an operand inside one, else the end of the filter. -/
structure UnfinishedAt (filter : String) (tokens : List Token) (offset : Nat) : Prop where
  viable : Viable (tokens.map Token.lexeme)
  not_valid : ¬ Valid (tokens.map Token.lexeme)
  offset_of_operand : ∀ innermost outer, Token.unmatched tokens = innermost :: outer →
    EndsOperand (tokens.map Token.lexeme) → offset = innermost.offset
  offset_of_end : Token.unmatched tokens = [] ∨ ¬ EndsOperand (tokens.map Token.lexeme) →
    offset = filter.utf8ByteSize

/-- Tokens with a hopeless one among them are not viable. -/
theorem HopelessAt.not_viable {tokens : List Token} {offset : Nat} (h : HopelessAt tokens offset) :
    ¬ Viable (tokens.map Token.lexeme) := by
  rcases h with ⟨before, t, after, rfl, -, hnot, -⟩
  intro hviable
  apply hnot
  rw [List.append_cons, List.map_append] at hviable
  exact hviable.front

/-- A token that is refused is hopeless behind the tokens that are taken. -/
theorem hopelessAt_of_step {before after : List Token} {t : Token} {s : Progress} {r : Refusal}
    (hrun : Progress.start.run none before = .ok s) (hstep : s.step none t = .error r) :
    HopelessAt (before ++ t :: after) t.offset := by
  refine ⟨before, t, after, rfl, viable_iff.mpr ⟨s, hrun⟩, ?_, rfl⟩
  rw [viable_iff]
  rintro ⟨s', hrun'⟩
  rw [Progress.run_append, hrun] at hrun'
  simp [Progress.run, hstep] at hrun'

/-- Tokens that are all taken and may not end are unfinished, and the fault of their end
says where. -/
theorem unfinishedAt_of_endFault? {tokens : List Token} {s : Progress} {fault : SyntaxFault}
    (hrun : Progress.start.run none tokens = .ok s) (hfault : s.endFault? = some fault)
    (filter : String) :
    ∃ offset, fault.offset? filter = some offset ∧ UnfinishedAt filter tokens offset := by
  have hviable : Viable (tokens.map Token.lexeme) := viable_iff.mpr ⟨s, hrun⟩
  have hvalid : ¬ Valid (tokens.map Token.lexeme) := by
    rw [valid_iff, Progress.refusal?, hrun]
    simp [hfault]
  have hends := endsOperand_iff hrun
  have hopened : s.opened = Token.unmatched tokens := Progress.opened_of_run hrun
  rcases Progress.endFault?_eq_some hfault with
    ⟨hexpected, missing, rfl⟩ | ⟨hexpected, innermost, outer, hinnermost, rfl⟩
  · refine ⟨filter.utf8ByteSize, rfl, hviable, hvalid, ?_, fun _ => rfl⟩
    intro _ _ _ hoperand
    exact absurd (hends.mp hoperand) hexpected
  · rw [hopened] at hinnermost
    refine ⟨innermost.offset, rfl, hviable, hvalid, ?_, ?_⟩
    · intro innermost' outer' hunmatched _
      rw [hinnermost] at hunmatched
      rw [(List.cons.inj hunmatched).1]
    · rintro (hnil | hoperand)
      · rw [hinnermost] at hnil
        cases hnil
      · exact absurd (hends.mpr hexpected) hoperand

/-- The reason for which tokens are refused is a fault that points at the first hopeless
token, or at where the tokens break off. -/
theorem fault_of_refusal? {tokens : List Token} {r : Refusal}
    (h : Progress.start.refusal? none tokens = some r) (filter : String) :
    ∃ fault offset, r = .fault fault ∧ fault.offset? filter = some offset ∧
      (HopelessAt tokens offset ∨ UnfinishedAt filter tokens offset) := by
  rcases Progress.exists_of_refusal? h with
    ⟨before, t, after, s, rfl, hrun, hstep⟩ | ⟨s, fault, hrun, hfault, rfl⟩
  · have hhopeless : HopelessAt (before ++ t :: after) t.offset := hopelessAt_of_step hrun hstep
    rcases (Progress.step_eq_error hstep).1 with rfl | rfl
    · exact ⟨.unexpected t, t.offset, rfl, rfl, .inl hhopeless⟩
    · exact ⟨.emptyKey t.offset, t.offset, rfl, rfl, .inl hhopeless⟩
  · rcases unfinishedAt_of_endFault? hrun hfault filter with ⟨offset, hoffset, hunfinished⟩
    exact ⟨fault, offset, rfl, hoffset, .inr hunfinished⟩

/-- The fault of a text that is cut into tokens and refused: without tokens it points
nowhere, and else either at the first hopeless token or, if there is none, at where the
tokens break off. -/
theorem parse_error_at_first_hopeless_token (filter : String) (tokens : List Token)
    (e : FilterError) (hscan : Token.scan filter = .ok tokens)
    (herror : parse none filter = .error e) :
    ∃ fault, e = .malformed filter fault ∧
      (tokens = [] → fault.offset? filter = none) ∧
        (tokens ≠ [] → ∃ offset, fault.offset? filter = some offset ∧
          Xor (HopelessAt tokens offset) (UnfinishedAt filter tokens offset)) := by
  by_cases hne : tokens = []
  · subst hne
    have hempty : parse none filter = .error (.malformed filter .empty) := by
      simp [parse, hscan, ofTokens]
    rw [hempty] at herror
    cases herror
    exact ⟨.empty, rfl, fun _ => rfl, fun h => absurd rfl h⟩
  · cases hresult : ofTokens none tokens with
    | ok f => simp [parse, hscan, hresult] at herror
    | error r =>
      have hrefusal := (ofTokens_eq_error_iff hne).mp hresult
      rcases fault_of_refusal? hrefusal filter with ⟨fault, offset, rfl, hoffset, hplace⟩
      have he : .malformed filter fault = e := by simpa [parse, hscan, hresult] using herror
      refine ⟨fault, he.symm, fun h => absurd h hne, fun _ => ⟨offset, hoffset, ?_⟩⟩
      rcases hplace with hhopeless | hunfinished
      · exact .inl ⟨hhopeless, fun h => hhopeless.not_viable h.viable⟩
      · exact .inr ⟨hunfinished, fun h => h.not_viable hunfinished.viable⟩

/-- In `or a=1` the keyword is a key, so the word behind it is hopeless; and `(a=1 or (b=2)`
breaks off inside its first parenthesis. -/
theorem parse_error_at_first_hopeless_token_keyword :
    HopelessAt [⟨.keyword .or, 0⟩, ⟨.word (.bare "a"), 3⟩, ⟨.equals, 4⟩,
        ⟨.word (.bare "1"), 5⟩] 3 ∧
      UnfinishedAt "(a=1 or (b=2)" [⟨.opening, 0⟩, ⟨.word (.bare "a"), 1⟩, ⟨.equals, 2⟩,
        ⟨.word (.bare "1"), 3⟩, ⟨.keyword .or, 5⟩, ⟨.opening, 8⟩, ⟨.word (.bare "b"), 9⟩,
          ⟨.equals, 10⟩, ⟨.word (.bare "2"), 11⟩, ⟨.closing, 12⟩] 0 := by
  constructor
  · have hscan : Token.scan "or a=1" = .ok [⟨.keyword .or, 0⟩, ⟨.word (.bare "a"), 3⟩,
        ⟨.equals, 4⟩, ⟨.word (.bare "1"), 5⟩] := by
      cbv
    have herror : parse none "or a=1" =
        .error (.malformed "or a=1" (.unexpected ⟨.word (.bare "a"), 3⟩)) := by
      cbv
    rcases parse_error_at_first_hopeless_token _ _ _ hscan herror with ⟨fault, hfault, -, hplace⟩
    cases hfault
    rcases hplace (List.cons_ne_nil _ _) with ⟨offset, hoffset, hxor⟩
    cases hoffset
    rcases hxor with ⟨hhopeless, -⟩ | ⟨hunfinished, -⟩
    · exact hhopeless
    · exact absurd (hunfinished.offset_of_end (.inl rfl)) (by decide)
  · have hscan : Token.scan "(a=1 or (b=2)" = .ok [⟨.opening, 0⟩, ⟨.word (.bare "a"), 1⟩,
        ⟨.equals, 2⟩, ⟨.word (.bare "1"), 3⟩, ⟨.keyword .or, 5⟩, ⟨.opening, 8⟩,
          ⟨.word (.bare "b"), 9⟩, ⟨.equals, 10⟩, ⟨.word (.bare "2"), 11⟩, ⟨.closing, 12⟩] := by
      cbv
    have herror : parse none "(a=1 or (b=2)" =
        .error (.malformed "(a=1 or (b=2)" (.unclosed 0)) := by
      cbv
    rcases parse_error_at_first_hopeless_token _ _ _ hscan herror with ⟨fault, hfault, -, hplace⟩
    cases hfault
    rcases hplace (List.cons_ne_nil _ _) with ⟨offset, hoffset, hxor⟩
    cases hoffset
    rcases hxor with ⟨hhopeless, -⟩ | ⟨hunfinished, -⟩
    · exact absurd (viable_iff.mpr ⟨_, rfl⟩) hhopeless.not_viable
    · exact hunfinished

end Formula
end HostFilter
