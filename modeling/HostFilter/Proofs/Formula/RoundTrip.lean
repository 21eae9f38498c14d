import HostFilter.Proofs.Compilation.Joining

/-!
# Printing a formula and parsing it back

A formula that a filter can spell is printed as a filter that spells it: every group stands
in its own parentheses, so groups of one connective inside each other stay apart, and a
bare word `and` or `or` is printed like the keyword, which is read as that word again where
a word is expected.  In the other direction the parser returns no other formulas.

Main results:

- Theorem `Lexeme.exists_asWord?_eq_some`: every word that a filter can hold is the word of
  a lexeme that is written the same.
- Theorem `WellFormed.exists_lexes`: the text of a well formed formula is cut into lexemes
  that spell it.
- Theorem `Derives.wellFormed`: well formed lexemes spell well formed formulas.
- Theorem `parse_source_inverse`: printing and parsing are inverse, and the parser returns
  exactly the well formed formulas.
-/

namespace HostFilter

/-! ## Words and their lexemes -/

namespace Lexeme

/-- The word of a well formed lexeme is well formed. -/
theorem WellFormed.word {l : Lexeme} {w : Word} (hl : l.WellFormed) (hw : l.asWord? = some w) :
    w.WellFormed := by
  match l with
  | .word w' =>
    obtain rfl : w' = w := by simpa [asWord?] using hw
    exact hl.1
  | .keyword op =>
    obtain rfl : Word.bare op.keyword = w := by simpa [asWord?] using hw
    rcases written_of_isUnquoted hl rfl with ⟨hne, hbare⟩
    refine ⟨by simpa [written, Word.bare] using hne, ?_⟩
    intro c hc
    exact isBare_eq_true_iff.mp (hbare c hc)

/-- A run of bare characters is the bare word of the run, be it a keyword. -/
theorem asWord?_ofBare (cs : List Char) : (ofBare cs).asWord? = some (.bare (String.ofList cs)) := by
  unfold ofBare
  split
  · rename_i h
    rw [h]
    rfl
  · split
    · rename_i h
      rw [h]
      rfl
    · rfl

/-- Every word that a filter can hold is the word of a lexeme that is written the same. -/
theorem exists_asWord?_eq_some {w : Word} (hw : w.WellFormed) :
    ∃ l : Lexeme, l.WellFormed ∧ l.asWord? = some w ∧ l.written = w.written := by
  match w with
  | ⟨text, true⟩ => exact ⟨.word ⟨text, true⟩, ⟨hw, by simp⟩, rfl, rfl⟩
  | ⟨text, false⟩ =>
    rcases hw with ⟨hne, hbare⟩
    refine ⟨ofBare text.toList, ?_, ?_, ?_⟩
    · apply wellFormed_ofBare
      · simpa using hne
      · intro c hc
        exact isBare_eq_true_iff.mpr (hbare c hc)
    · rw [asWord?_ofBare, String.ofList_toList]
      rfl
    · apply String.toList_injective
      simp [Word.written]

end Lexeme

namespace Formula

/-! ## Formulas that can be spelled -/

/-- A formula that a filter can spell: every group joins two formulas or more, and every
clause has a key that is not empty and words that a filter can hold. -/
inductive WellFormed : Formula → Prop where
  | clause {c : Clause} (hne : c.key.text ≠ "") (hkey : c.key.WellFormed)
      (hvalue : c.value.WellFormed) : WellFormed (.clause c)
  | group {op : Connective} {members : List Formula} (htwo : 2 ≤ members.length)
      (hmembers : ∀ f ∈ members, WellFormed f) : WellFormed (.group op members)

/-- Well formed lexemes spell well formed formulas. -/
theorem Derives.wellFormed {tier : Tier} {ls : List Lexeme} {f : Formula}
    (h : Derives tier ls f) (hls : ∀ l ∈ ls, l.WellFormed) : f.WellFormed := by
  induction h with
  | @clause k v key value hkey hne hvalue =>
    have hk : k.WellFormed := hls k (by simp)
    have hv : v.WellFormed := hls v (by simp)
    exact .clause hne (hk.word hkey) (hv.word hvalue)
  | parens _ ih => exact ih fun l hl => hls l (by simp [hl])
  | single _ ih => exact ih hls
  | @group op first others hothers _ _ ihfirst ihrest =>
    have hfirst : first.2.WellFormed := ihfirst fun l hl => hls l (by simp [hl])
    have hrest : ∀ p ∈ others, p.2.WellFormed := by
      intro p hp
      refine ihrest p hp fun l hl => hls l (List.mem_append_right _ ?_)
      exact List.mem_flatMap.mpr ⟨p, hp, List.mem_cons_of_mem _ hl⟩
    have hlength : 0 < others.length := List.length_pos_iff.mpr hothers
    refine .group (by simp; omega) ?_
    simpa using ⟨hfirst, fun g ls hp => hrest (ls, g) hp⟩

/-- The parser returns only well formed formulas. -/
theorem wellFormed_of_parse {filter : String} {f : Formula} (h : parse none filter = .ok f) :
    f.WellFormed := by
  rcases parse_eq_ok_iff.mp h with ⟨tokens, hscan, hf⟩
  rcases Token.exists_layout hscan with ⟨layout, hwrites⟩
  apply (ofTokens_eq_ok_iff.mp hf).wellFormed
  rw [← hwrites.tokens_eq, Layout.map_lexeme_tokensFrom]
  exact hwrites.wellFormed

/-! ## The text of a formula spells it -/

/-- The text of a formula as a filter: laid out as for display, with the keywords between
the members of a group. -/
def source (f : Formula) : String :=
  String.ofList (f.renderWith Connective.keyword)

@[simp]
theorem renderAllWith_eq_map (spelling : Connective → String) (fs : List Formula) :
    renderAllWith spelling fs = fs.map (renderWith spelling) := by
  induction fs with
  | nil => rfl
  | cons f fs ih => simp [renderAllWith, ih]

/-- A key, an equals sign and a value without blanks between them are three lexemes. -/
theorem lexes_clause {k v : Lexeme} (hk : k.WellFormed) (hv : v.WellFormed) :
    Token.Lexes (k.written.toList ++ '=' :: v.written.toList) [k, .equals, v] := by
  have hequals : Lexeme.equals.WellFormed := trivial
  have hvalue : Token.Lexes (v.written.toList ++ []) [v] :=
    Token.lexes_nil.written hv (by simp)
  rw [List.append_nil] at hvalue
  have hright : Token.Lexes ('=' :: v.written.toList) [.equals, v] :=
    hvalue.written hequals (by simp [Lexeme.isUnquoted])
  exact hright.written hk (by simp [isBare])

/-- Texts with a keyword between each two have their lexemes with the keyword between each
two. -/
theorem lexes_intercalate {text : Formula → List Char} (op : Connective) (first : Phrase)
    (others : List Phrase) (h : ∀ p ∈ first :: others, Token.Lexes (text p.2) p.1) :
    Token.Lexes ((' ' :: op.keyword.toList ++ [' ']).intercalate
        ((first :: others).map fun p => text p.2))
      (first.1 ++ joined op others) := by
  induction others generalizing first with
  | nil => simpa using h
  | cons next others ih =>
    rcases List.forall_mem_cons.mp h with ⟨hfirst, hothers⟩
    have hlexes := Token.lexes_append_keyword hfirst (ih next hothers) op
    simpa using hlexes

/-- Formulas that each have lexemes of some kind are the formulas of phrases of that
kind. -/
theorem exists_phrases {P : List Lexeme → Formula → Prop} {fs : List Formula}
    (h : ∀ f ∈ fs, ∃ ls, P ls f) :
    ∃ ps : List Phrase, ps.map Prod.snd = fs ∧ ∀ p ∈ ps, P p.1 p.2 := by
  induction fs with
  | nil => exact ⟨[], rfl, by simp⟩
  | cons f fs ih =>
    rcases List.forall_mem_cons.mp h with ⟨⟨ls, hf⟩, hfs⟩
    rcases ih hfs with ⟨ps, rfl, hps⟩
    exact ⟨(ls, f) :: ps, rfl, List.forall_mem_cons.mpr ⟨hf, hps⟩⟩

/-- Two or more phrases with keywords between them, in parentheses, spell their group. -/
theorem derives_group {op : Connective} {first : Phrase} {others : List Phrase}
    (hothers : others ≠ []) (h : ∀ p ∈ first :: others, Derives .primary p.1 p.2) :
    Derives .primary (.opening :: (first.1 ++ joined op others) ++ [.closing])
      (.group op ((first :: others).map Prod.snd)) := by
  rcases List.forall_mem_cons.mp h with ⟨hfirst, hrest⟩
  have hchain : Derives (.chain op) (first.1 ++ joined op others)
      (.group op (first.2 :: others.map Prod.snd)) :=
    .group hothers (hfirst.operand op) fun p hp => (hrest p hp).operand op
  exact .parens hchain.filter

/-- The text of a well formed formula is cut into lexemes that spell it, and it may stand
between keywords. -/
theorem WellFormed.exists_lexes {f : Formula} (h : f.WellFormed) :
    ∃ ls, Token.Lexes (f.renderWith Connective.keyword) ls ∧ Derives .primary ls f := by
  induction h with
  | @clause c hne hkey hvalue =>
    rcases Lexeme.exists_asWord?_eq_some hkey with ⟨k, hk, hkword, hkwritten⟩
    rcases Lexeme.exists_asWord?_eq_some hvalue with ⟨v, hv, hvword, hvwritten⟩
    refine ⟨[k, .equals, v], ?_, .clause hkword hne hvword⟩
    rw [renderWith, ← hkwritten, ← hvwritten]
    exact lexes_clause hk hv
  | @group op members htwo _ ih =>
    rcases exists_phrases ih with ⟨ps, rfl, hps⟩
    match ps with
    | first :: next :: others =>
      refine ⟨_, ?_, derives_group (List.cons_ne_nil next others) fun p hp => (hps p hp).2⟩
      have hlexes := lexes_intercalate op first (next :: others) fun p hp => (hps p hp).1
      rw [renderWith, renderAllWith_eq_map, List.map_map]
      exact Token.lexes_parens hlexes

/-- Printing and parsing are inverse: the text of a well formed formula is accepted as the
formula, and every formula that any text is accepted as is well formed. -/
theorem parse_source_inverse :
    (∀ f : Formula, f.WellFormed → parse none f.source = .ok f) ∧
      ∀ (filter : String) (f : Formula), parse none filter = .ok f → f.WellFormed := by
  constructor
  · intro f hf
    rcases hf.exists_lexes with ⟨ls, hlexes, hderives⟩
    exact parse_of_lexes (by simpa [source] using hlexes) (hderives.operand .or).single
  · intro filter f h
    exact wellFormed_of_parse h

/-- Keywords as words, an operator in quotes and an `or` within an `or` come back as they
were. -/
theorem parse_source_inverse_keywords :
    parse none "(and=\"(x or \" or (or=and or \"a b\"=or))" =
      .ok (.group .or [.clause ⟨.bare "and", ⟨"(x or ", true⟩⟩, .group .or
        [.clause ⟨.bare "or", .bare "and"⟩, .clause ⟨⟨"a b", true⟩, .bare "or"⟩]]) := by
  have hand : (Word.bare "and").WellFormed :=
    Lexeme.WellFormed.word (l := .keyword .and) trivial rfl
  have hor : (Word.bare "or").WellFormed :=
    Lexeme.WellFormed.word (l := .keyword .or) trivial rfl
  have hx : (⟨"(x or ", true⟩ : Word).WellFormed := by simp [Word.WellFormed]
  have hab : (⟨"a b", true⟩ : Word).WellFormed := by simp [Word.WellFormed]
  have hwell : (Formula.group .or [.clause ⟨.bare "and", ⟨"(x or ", true⟩⟩, .group .or
      [.clause ⟨.bare "or", .bare "and"⟩, .clause ⟨⟨"a b", true⟩, .bare "or"⟩]]).WellFormed := by
    refine .group (by simp) (List.forall_mem_cons.mpr ⟨.clause (by decide) hand hx, ?_⟩)
    refine List.forall_mem_singleton.mpr (.group (by simp) (List.forall_mem_cons.mpr ⟨?_, ?_⟩))
    · exact .clause (by decide) hor hand
    · exact List.forall_mem_singleton.mpr (.clause (by decide) hab hor)
  have hsource : (Formula.group .or [.clause ⟨.bare "and", ⟨"(x or ", true⟩⟩, .group .or
      [.clause ⟨.bare "or", .bare "and"⟩, .clause ⟨⟨"a b", true⟩, .bare "or"⟩]]).source =
        "(and=\"(x or \" or (or=and or \"a b\"=or))" := by
    cbv
  rw [← hsource]
  exact parse_source_inverse.1 _ hwell

end Formula
end HostFilter
