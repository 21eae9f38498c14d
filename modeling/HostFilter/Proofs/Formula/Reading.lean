import HostFilter.Proofs.Compilation.Truth
import HostFilter.Proofs.Formula.Parsing
import HostFilter.Proofs.Text.Separated

/-!
# A formula read from left to right

Read from left to right, a formula is its words, equals signs and connectives in a row.
Parsing keeps this row: it is the row of lexemes that the formula was parsed from, less the
parentheses.  A keyword in the place of a key or a value is the bare word of its spelling
there, and every other keyword is a connective between two members of a group.

Main results:

- Theorem `Derives.writtenAs_marks`: the lexemes of a phrase without parentheses write its
  formula from left to right.
- Theorem `count_equals_marks`: a formula has an equals sign for each clause.
- Theorem `parse_keeps_row`: parsing loses, repeats and moves nothing but parentheses.
-/

namespace HostFilter

/-- Is the lexeme a parenthesis? -/
def Lexeme.isParenthesis : Lexeme → Bool
  | .opening | .closing => true
  | _ => false

theorem Lexeme.isParenthesis_equals : Lexeme.equals.isParenthesis = false :=
  rfl

/-- What reads as a word is no parenthesis. -/
theorem Lexeme.isParenthesis_of_asWord? {l : Lexeme} {w : Word} (h : l.asWord? = some w) :
    l.isParenthesis = false := by
  cases l with
  | word | equals | keyword => rfl
  | opening | closing => cases h

/-- What stands at one place of a formula read from left to right. -/
inductive Mark where
  | word (w : Word)
  | equals
  | joint (op : Connective)
deriving DecidableEq

/-- The lexemes that can write a mark.  A word is also written by the keyword of its
spelling; an equals sign and a connective are written in one way. -/
inductive Mark.WrittenAs : Mark → Lexeme → Prop where
  | word {w : Word} {l : Lexeme} (hword : l.asWord? = some w) : WrittenAs (.word w) l
  | equals : WrittenAs .equals .equals
  | joint (op : Connective) : WrittenAs (.joint op) (.keyword op)

/-- A mark is an equals sign exactly if the lexeme that writes it is one. -/
theorem Mark.WrittenAs.eq_equals_iff {m : Mark} {l : Lexeme} (h : m.WrittenAs l) :
    m = .equals ↔ l = .equals := by
  cases h with
  | word hword =>
    have hne : l ≠ .equals := by
      rintro rfl
      cases hword
    simp [hne]
  | equals => simp
  | joint op => simp

/-- Marks and the lexemes that write them have equally many equals signs. -/
theorem count_equals_of_writtenAs {ms : List Mark} {ls : List Lexeme}
    (h : List.Forall₂ Mark.WrittenAs ms ls) : ms.count .equals = ls.count .equals := by
  induction h with
  | nil => rfl
  | @cons m l ms ls hwritten _ ih =>
    by_cases hl : l = .equals
    · rw [hl, hwritten.eq_equals_iff.mpr hl, List.count_cons_self, List.count_cons_self, ih]
    · have hm : m ≠ .equals := fun hm => hl (hwritten.eq_equals_iff.mp hm)
      rw [List.count_cons_of_ne hm, List.count_cons_of_ne hl, ih]

namespace Formula

/-! ## The marks of a formula -/

mutual

/-- The words, equals signs and connectives of a formula from left to right: a clause is its
key, an equals sign and its value, and a group has its connective between each two members. -/
def marks : Formula → List Mark
  | .clause c => [.word c.key, .equals, .word c.value]
  | .group op members => [.joint op].intercalate (marksAll members)

/-- The marks of each formula of a list. -/
def marksAll : List Formula → List (List Mark)
  | [] => []
  | f :: fs => f.marks :: marksAll fs

end

@[simp]
theorem marksAll_eq_map (fs : List Formula) : marksAll fs = fs.map marks := by
  induction fs with
  | nil => rfl
  | cons f fs ih => simp [marksAll, ih]

/-- The marks of a group are those of its first member, and those of the others, each behind
the connective. -/
theorem marks_group_cons (op : Connective) (f : Formula) (fs : List Formula) :
    (group op (f :: fs)).marks = f.marks ++ fs.flatMap fun g => .joint op :: g.marks := by
  rw [marks, marksAll_eq_map, List.map_cons, Text.intercalate_cons_eq_flatMap, List.flatMap_map]
  rfl

/-- A formula has an equals sign for each clause. -/
theorem count_equals_marks (f : Formula) : f.marks.count .equals = f.clauseCount := by
  rw [← length_clauses]
  induction f with
  | clause c => rfl
  | group op members ih =>
    cases members with
    | nil => rfl
    | cons f fs =>
      rcases List.forall_mem_cons.mp ih with ⟨hf, hfs⟩
      have hothers : (fs.flatMap fun g => .joint op :: g.marks).count .equals =
          (fs.flatMap clauses).length := by
        rw [List.count_flatMap, List.length_flatMap]
        refine congrArg List.sum (List.map_congr_left fun g hg => ?_)
        simp [hfs g hg]
      rw [marks_group_cons, List.count_append, hf, hothers, clauses, clausesAll_eq_flatMap,
        List.flatMap_cons, List.length_append]

/-! ## The lexemes of a formula -/

/-- Operands behind keywords, less the parentheses, write the operands from left to right,
each behind the connective. -/
theorem writtenAs_joined {op : Connective} {others : List Phrase}
    (h : ∀ p ∈ others,
      List.Forall₂ Mark.WrittenAs p.2.marks (p.1.filter fun l => !l.isParenthesis)) :
    List.Forall₂ Mark.WrittenAs (others.flatMap fun p => .joint op :: p.2.marks)
      ((joined op others).filter fun l => !l.isParenthesis) := by
  induction others with
  | nil => exact .nil
  | cons p others ih =>
    rcases List.forall_mem_cons.mp h with ⟨hp, hothers⟩
    have hrest := List.rel_append hp (ih hothers)
    simpa [Lexeme.isParenthesis] using List.Forall₂.cons (Mark.WrittenAs.joint op) hrest

/-- The lexemes of a phrase, less the parentheses, write its formula from left to right. -/
theorem Derives.writtenAs_marks {tier : Tier} {ls : List Lexeme} {f : Formula}
    (h : Derives tier ls f) :
    List.Forall₂ Mark.WrittenAs f.marks (ls.filter fun l => !l.isParenthesis) := by
  induction h with
  | @clause k v key value hkey _ hvalue =>
    have hkept : [k, .equals, v].filter (fun l => !l.isParenthesis) = [k, .equals, v] := by
      simp [Lexeme.isParenthesis_of_asWord? hkey, Lexeme.isParenthesis_of_asWord? hvalue,
        Lexeme.isParenthesis_equals]
    rw [hkept, marks]
    exact .cons (.word hkey) (.cons .equals (.cons (.word hvalue) .nil))
  | parens _ ih => simpa [Lexeme.isParenthesis] using ih
  | single _ ih => exact ih
  | @group op first others _ _ _ ihfirst ihrest =>
    rw [marks_group_cons, List.flatMap_map, List.filter_append]
    exact List.rel_append ihfirst (writtenAs_joined ihrest)

/-- The lexemes of a text that is accepted, under any limit, spell its formula. -/
theorem derives_of_parse {limit : Option Nat} {filter : String} {tokens : List Token}
    {f : Formula} (hscan : Token.scan filter = .ok tokens) (h : parse limit filter = .ok f) :
    Derives (.chain .or) (tokens.map Token.lexeme) f := by
  rcases parse_eq_ok_iff.mp h with ⟨tokens', hscan', hf⟩
  obtain rfl : tokens' = tokens := Except.ok.inj (hscan'.symm.trans hscan)
  rcases ofTokens_eq_ok hf with ⟨p, hp, hrest, rfl⟩
  have hspells := parseChain_spells hp
  rw [hrest] at hspells
  exact hspells.derives

/-- Parsing keeps the row of the tokens: less the parentheses, they write the formula from
left to right, one token for each mark.  So there is an equals sign for each clause. -/
theorem parse_keeps_row {limit : Option Nat} {filter : String} {tokens : List Token}
    {f : Formula} (hscan : Token.scan filter = .ok tokens) (h : parse limit filter = .ok f) :
    List.Forall₂ Mark.WrittenAs f.marks
        ((tokens.map Token.lexeme).filter fun l => !l.isParenthesis) ∧
      f.clauseCount = (tokens.map Token.lexeme).count .equals := by
  have hwritten := (derives_of_parse hscan h).writtenAs_marks
  refine ⟨hwritten, ?_⟩
  have hcount : ((tokens.map Token.lexeme).filter fun l => !l.isParenthesis).count .equals =
      (tokens.map Token.lexeme).count .equals := List.count_filter rfl
  rw [← count_equals_marks, count_equals_of_writtenAs hwritten, hcount]

/-- Of the keywords in `(or=and or ((a="or")))`, in this order, one is a key, one a value and
one the connective; the quoted one is no keyword. -/
theorem parse_keeps_row_keywords :
    List.Forall₂ Mark.WrittenAs
        (group .or [.clause ⟨.bare "or", .bare "and"⟩, .clause ⟨.bare "a", ⟨"or", true⟩⟩]).marks
        [.keyword .or, .equals, .keyword .and, .keyword .or, .word (.bare "a"), .equals,
          .word ⟨"or", true⟩] ∧
      (group .or [.clause ⟨.bare "or", .bare "and"⟩,
        .clause ⟨.bare "a", ⟨"or", true⟩⟩]).clauseCount = 2 := by
  have hscan : Token.scan "(or=and or ((a=\"or\")))" = .ok [⟨.opening, 0⟩, ⟨.keyword .or, 1⟩,
      ⟨.equals, 3⟩, ⟨.keyword .and, 4⟩, ⟨.keyword .or, 8⟩, ⟨.opening, 11⟩, ⟨.opening, 12⟩,
      ⟨.word (.bare "a"), 13⟩, ⟨.equals, 14⟩, ⟨.word ⟨"or", true⟩, 15⟩, ⟨.closing, 19⟩,
      ⟨.closing, 20⟩, ⟨.closing, 21⟩] := by
    cbv
  have hparse : parse none "(or=and or ((a=\"or\")))" = .ok (.group .or
      [.clause ⟨.bare "or", .bare "and"⟩, .clause ⟨.bare "a", ⟨"or", true⟩⟩]) := by
    cbv
  exact parse_keeps_row hscan hparse

end Formula
end HostFilter
