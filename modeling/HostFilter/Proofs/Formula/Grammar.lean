import HostFilter.Formula.Basic

/-!
# The grammar of filters

Which lists of lexemes spell a formula, and which formula they spell.  A chain has
operands of the next tighter tier with one keyword between them; below the chains
stand clauses and formulas in parentheses.  The grammar says nothing about how a
list is read, so it is the second side against which the parser is measured.

Main results:

- Theorem `Derives.ne_nil`: no formula is spelled by the empty list.
- Theorem `Derives.exists_operands`: a chain is its first operand and the operands
  behind keywords, and its formula is the chain of their formulas.
-/

namespace HostFilter

/-- A tier of the grammar: a chain of operands joined by one connective, or what
stands between keywords. -/
inductive Tier where
  | chain (op : Connective)
  | primary
deriving DecidableEq

/-- The tier of a chain's operands: `and` binds tighter than `or`. -/
def Connective.operandTier : Connective → Tier
  | .or => .chain .and
  | .and => .primary

namespace Formula

/-- A list of lexemes together with the formula that it spells. -/
abbrev Phrase : Type :=
  List Lexeme × Formula

/-- The lexemes of the operands behind the first one, each behind the keyword. -/
def joined (op : Connective) (others : List Phrase) : List Lexeme :=
  others.flatMap fun p => .keyword op :: p.1

/-- The grammar: `Derives tier ls f` says that `ls` is a phrase of the tier and spells
the formula `f`. -/
inductive Derives : Tier → List Lexeme → Formula → Prop where
  /-- A clause is a word that is not empty, an equals sign and a word. -/
  | clause {k v : Lexeme} {key value : Word} (hkey : k.asWord? = some key)
      (hne : key.text ≠ "") (hvalue : v.asWord? = some value) :
      Derives .primary [k, .equals, v] (.clause ⟨key, value⟩)
  /-- Parentheses leave the formula as it is. -/
  | parens {ls : List Lexeme} {f : Formula} (hinner : Derives (.chain .or) ls f) :
      Derives .primary (.opening :: ls ++ [.closing]) f
  /-- A single operand stands for itself. -/
  | single {op : Connective} {ls : List Lexeme} {f : Formula}
      (hoperand : Derives op.operandTier ls f) : Derives (.chain op) ls f
  /-- Two or more operands make one group. -/
  | group {op : Connective} {first : Phrase} {others : List Phrase} (hothers : others ≠ [])
      (hfirst : Derives op.operandTier first.1 first.2)
      (hrest : ∀ p ∈ others, Derives op.operandTier p.1 p.2) :
      Derives (.chain op) (first.1 ++ joined op others)
        (.group op (first.2 :: others.map Prod.snd))

@[simp]
theorem joined_nil (op : Connective) : joined op [] = [] :=
  rfl

@[simp]
theorem joined_cons (op : Connective) (p : Phrase) (ps : List Phrase) :
    joined op (p :: ps) = .keyword op :: (p.1 ++ joined op ps) := by
  simp [joined]

@[simp]
theorem joined_append (op : Connective) (ps qs : List Phrase) :
    joined op (ps ++ qs) = joined op ps ++ joined op qs := by
  simp [joined]

namespace Derives

/-- No formula is spelled by the empty list. -/
theorem ne_nil {tier : Tier} {ls : List Lexeme} {f : Formula} (h : Derives tier ls f) :
    ls ≠ [] := by
  induction h with
  | clause => simp
  | parens => simp
  | single _ ih => exact ih
  | group _ _ _ ih => simp [ih]

/-- Operands with keywords between them are a chain, whatever their number. -/
theorem of_operands {op : Connective} {first : Phrase} {others : List Phrase}
    (hfirst : Derives op.operandTier first.1 first.2)
    (hrest : ∀ p ∈ others, Derives op.operandTier p.1 p.2) :
    Derives (.chain op) (first.1 ++ joined op others)
      (chained op first.2 (others.map Prod.snd)) := by
  cases others with
  | nil => simpa [chained] using single hfirst
  | cons p ps => exact group (List.cons_ne_nil p ps) hfirst hrest

/-- A chain is its first operand and the operands behind keywords. -/
theorem exists_operands {op : Connective} {ls : List Lexeme} {f : Formula}
    (h : Derives (.chain op) ls f) :
    ∃ (first : Phrase) (others : List Phrase),
      Derives op.operandTier first.1 first.2 ∧
        (∀ p ∈ others, Derives op.operandTier p.1 p.2) ∧
          ls = first.1 ++ joined op others ∧ f = chained op first.2 (others.map Prod.snd) := by
  cases h with
  | single hoperand => exact ⟨(ls, f), [], hoperand, by simp, by simp, rfl⟩
  | @group _ first others hothers hfirst hrest =>
    refine ⟨first, others, hfirst, hrest, rfl, ?_⟩
    cases others with
    | nil => exact absurd rfl hothers
    | cons p ps => rfl

end Derives
end Formula
end HostFilter
