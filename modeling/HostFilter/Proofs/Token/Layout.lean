import HostFilter.Token.Scan

/-!
# Layouts of a filter

A layout writes lexemes down with runs of characters in front of, between and behind
them.  It is the second side against which the scanner is measured: nothing in it says
how a text is cut.

Main results:

- Theorem `Layout.takeWhile_text`: the blanks in front of a layout's first lexeme are the
  blanks that its text starts with.
- Theorem `Layout.eq_of_text_eq`: a spaced layout is determined by its lexemes and its
  text.
-/

namespace HostFilter

/-- The characters of a bare word: no blank and none of the four delimiters. -/
theorem isBare_eq_true_iff {c : Char} :
    isBare c = true ↔ Text.isBlank c = false ∧ c ∉ ['(', ')', '=', '"'] := by
  simp [isBare, and_assoc]

/-- A blank is no character of a bare word. -/
theorem isBare_of_isBlank {c : Char} (h : Text.isBlank c = true) : isBare c = false := by
  simp [isBare, h]

/-- A run ends where the first character comes that is not of its kind. -/
theorem takeWhile_append_of_head {p : Char → Bool} {run cs : List Char}
    (hrun : ∀ c ∈ run, p c = true) (hcs : ∀ c ∈ cs.head?, p c = false) :
    (run ++ cs).takeWhile p = run ∧ (run ++ cs).dropWhile p = cs := by
  rw [List.takeWhile_append_of_pos hrun, List.dropWhile_append_of_pos hrun]
  cases cs with
  | nil => simp
  | cons c cs => simp [hcs c rfl]

/-- The characters of a run are of its kind, and the first one behind it is not. -/
theorem takeWhile_ends (p : Char → Bool) (cs : List Char) :
    (∀ c ∈ cs.takeWhile p, p c = true) ∧ ∀ c ∈ (cs.dropWhile p).head?, p c = false := by
  constructor
  · exact List.all_eq_true.mp List.all_takeWhile
  · intro c hc
    have hnot := List.head?_dropWhile_not p cs
    rw [Option.mem_def.mp hc] at hnot
    exact hnot

/-- A run of characters of one kind is told from its text, and so is the text behind it, if that
starts with a character of another kind. -/
theorem run_append_inj {p : Char → Bool} {run run' cs ds : List Char}
    (hrun : ∀ c ∈ run, p c = true) (hrun' : ∀ c ∈ run', p c = true)
    (hcs : ∀ c ∈ cs.head?, p c = false) (hds : ∀ c ∈ ds.head?, p c = false)
    (h : run ++ cs = run' ++ ds) : run = run' ∧ cs = ds := by
  rcases takeWhile_append_of_head hrun hcs with ⟨htake, hdrop⟩
  rcases takeWhile_append_of_head hrun' hds with ⟨htake', hdrop'⟩
  rw [h] at htake hdrop
  exact ⟨htake.symm.trans htake', hdrop.symm.trans hdrop'⟩

/-- A text without quotes is a run of characters that are no quotes. -/
theorem ne_quote_of_not_mem {cs : List Char} (h : '"' ∉ cs) :
    ∀ c ∈ cs, decide (c ≠ '"') = true := by
  intro c hc
  have hne : c ≠ '"' := fun heq => h (heq ▸ hc)
  exact decide_eq_true hne

/-! ## Lexemes that can be written -/

/-- A word that a filter can hold: without quotes a run of bare characters, in quotes a
text without a quote. -/
def Word.WellFormed (w : Word) : Prop :=
  if w.quoted then '"' ∉ w.text.toList
  else w.text ≠ "" ∧ ∀ c ∈ w.text.toList, Text.isBlank c = false ∧ c ∉ ['(', ')', '=', '"']

namespace Lexeme

/-- A lexeme that a filter can hold.  A keyword is never a bare word. -/
def WellFormed : Lexeme → Prop
  | .word w => w.WellFormed ∧ (w.quoted = false → w.text ≠ "and" ∧ w.text ≠ "or")
  | _ => True

/-- Is the lexeme a word without quotes, be it a keyword? -/
def isUnquoted : Lexeme → Bool
  | .word w => !w.quoted
  | .keyword _ => true
  | _ => false

/-- A run of bare characters is written as it is. -/
@[simp]
theorem written_ofBare (cs : List Char) : (ofBare cs).written.toList = cs := by
  unfold ofBare
  split
  · rename_i h
    rw [h]
    rfl
  · split
    · rename_i h
      rw [h]
      rfl
    · simp [written, Word.written, Word.bare]

/-- A run of bare characters is a lexeme. -/
theorem wellFormed_ofBare {cs : List Char} (hne : cs ≠ []) (hbare : ∀ c ∈ cs, isBare c = true) :
    (ofBare cs).WellFormed := by
  unfold ofBare
  split
  · trivial
  · rename_i hand
    split
    · trivial
    · rename_i hor
      refine ⟨⟨?_, ?_⟩, ?_⟩
      · simpa [Word.bare] using hne
      · intro c hc
        exact isBare_eq_true_iff.mp (hbare c (by simpa [Word.bare] using hc))
      · intro _
        constructor
        · intro h
          exact hand (by simpa [Word.bare] using congrArg String.toList h)
        · intro h
          exact hor (by simpa [Word.bare] using congrArg String.toList h)

/-- A quoted word is written with its quotes. -/
theorem written_ofQuoted (cs : List Char) :
    (ofQuoted cs).written.toList = '"' :: (cs ++ ['"']) := by
  simp [ofQuoted, written, Word.written]

/-- The two quotes take two bytes. -/
theorem byteLength_written_ofQuoted (cs : List Char) :
    Text.byteLength (ofQuoted cs).written.toList = Text.byteLength cs + 2 := by
  simp only [written_ofQuoted, Text.byteLength_cons, Text.byteLength_append,
    Text.byteLength_nil, show '"'.utf8Size = 1 from rfl]
  omega

/-- A text without a quote is a lexeme between quotes. -/
theorem wellFormed_ofQuoted {cs : List Char} (h : '"' ∉ cs) : (ofQuoted cs).WellFormed := by
  simpa [ofQuoted, WellFormed, Word.WellFormed] using h

/-- A lexeme without quotes is what its own text is cut into. -/
theorem ofBare_written {l : Lexeme} (hl : l.WellFormed) (hunquoted : l.isUnquoted = true) :
    ofBare l.written.toList = l := by
  match l with
  | .word ⟨text, false⟩ =>
    rcases hl.2 rfl with ⟨hand, hor⟩
    have hand' : text.toList ≠ ['a', 'n', 'd'] := fun h => hand (String.toList_injective h)
    have hor' : text.toList ≠ ['o', 'r'] := fun h => hor (String.toList_injective h)
    simp [ofBare, written, Word.written, Word.bare, hand', hor']
  | .keyword .and => rfl
  | .keyword .or => rfl

/-- A lexeme without quotes is written with bare characters, at least one. -/
theorem written_of_isUnquoted {l : Lexeme} (hl : l.WellFormed) (hunquoted : l.isUnquoted = true) :
    l.written.toList ≠ [] ∧ ∀ c ∈ l.written.toList, isBare c = true := by
  match l with
  | .word ⟨text, false⟩ =>
    rcases hl.1 with ⟨hne, hbare⟩
    refine ⟨by simpa [written, Word.written] using hne, ?_⟩
    intro c hc
    exact isBare_eq_true_iff.mpr (hbare c (by simpa [written, Word.written] using hc))
  | .keyword op =>
    rw [← List.all_eq_true]
    cases op with
    | and => exact ⟨by simp [written, Connective.keyword], rfl⟩
    | or => exact ⟨by simp [written, Connective.keyword], rfl⟩

/-- Any other lexeme starts with a delimiter. -/
theorem written_of_not_isUnquoted {l : Lexeme} (hunquoted : l.isUnquoted = false) :
    ∃ c cs, l.written.toList = c :: cs ∧ c ∈ ['(', ')', '=', '"'] := by
  match l with
  | .word ⟨text, true⟩ => exact ⟨'"', text.toList ++ ['"'], by simp [written, Word.written], by simp⟩
  | .equals => exact ⟨'=', [], rfl, by simp⟩
  | .opening => exact ⟨'(', [], rfl, by simp⟩
  | .closing => exact ⟨')', [], rfl, by simp⟩

/-- No lexeme starts with a blank. -/
theorem exists_written_eq_cons {l : Lexeme} (hl : l.WellFormed) :
    ∃ c cs, l.written.toList = c :: cs ∧ Text.isBlank c = false := by
  cases hunquoted : l.isUnquoted with
  | true =>
    rcases written_of_isUnquoted hl hunquoted with ⟨hne, hbare⟩
    rcases List.exists_cons_of_ne_nil hne with ⟨c, cs, hcs⟩
    have hc := hbare c (by simp [hcs])
    exact ⟨c, cs, hcs, (isBare_eq_true_iff.mp hc).1⟩
  | false =>
    rcases written_of_not_isUnquoted hunquoted with ⟨c, cs, hcs, hc⟩
    refine ⟨c, cs, hcs, ?_⟩
    simp only [List.mem_cons, List.not_mem_nil, or_false] at hc
    rcases hc with rfl | rfl | rfl | rfl <;> decide

end Lexeme

/-! ## Layouts -/

/-- Lexemes written down, each with a gap in front of it, and a gap at the end. -/
inductive Layout where
  | done (gap : List Char)
  | next (gap : List Char) (l : Lexeme) (rest : Layout)
deriving DecidableEq

namespace Layout

/-- The gap in front. -/
def gap : Layout → List Char
  | .done gap => gap
  | .next gap _ _ => gap

/-- The lexemes in order. -/
def lexemes : Layout → List Lexeme
  | .done _ => []
  | .next _ l rest => l :: rest.lexemes

/-- The text: gaps and lexemes one after the other. -/
def text : Layout → List Char
  | .done gap => gap
  | .next gap l rest => gap ++ (l.written.toList ++ rest.text)

/-- The tokens of the text, if the layout starts at byte `offset`: each lexeme with the
number of bytes in front of it. -/
def tokensFrom (offset : Nat) : Layout → List Token
  | .done _ => []
  | .next gap l rest =>
    ⟨l, offset + Text.byteLength gap⟩ ::
      rest.tokensFrom (offset + Text.byteLength (gap ++ l.written.toList))

/-- Every gap is a run of blanks, and it is not empty between two words without quotes. -/
def Spaced : Layout → Prop
  | .done gap => ∀ c ∈ gap, Text.isBlank c = true
  | .next gap l rest =>
    (∀ c ∈ gap, Text.isBlank c = true) ∧
      (l.isUnquoted = true → ∀ l' ∈ rest.lexemes.head?, l'.isUnquoted = true → rest.gap ≠ []) ∧
        rest.Spaced

/-- The layout with one more character in front. -/
def indent (c : Char) : Layout → Layout
  | .done gap => .done (c :: gap)
  | .next gap l rest => .next (c :: gap) l rest

@[simp]
theorem lexemes_indent (c : Char) (layout : Layout) :
    (layout.indent c).lexemes = layout.lexemes := by
  cases layout <;> rfl

@[simp]
theorem text_indent (c : Char) (layout : Layout) : (layout.indent c).text = c :: layout.text := by
  cases layout <;> rfl

@[simp]
theorem tokensFrom_indent (offset : Nat) (c : Char) (layout : Layout) :
    (layout.indent c).tokensFrom offset = layout.tokensFrom (offset + c.utf8Size) := by
  cases layout with
  | done gap => rfl
  | next gap l rest => simp [indent, tokensFrom, Nat.add_assoc]

/-- A blank in front keeps a layout spaced. -/
theorem Spaced.indent {c : Char} {layout : Layout} (hc : Text.isBlank c = true)
    (h : layout.Spaced) : (layout.indent c).Spaced := by
  cases layout with
  | done gap => exact List.forall_mem_cons.mpr ⟨hc, h⟩
  | next gap l rest => exact ⟨List.forall_mem_cons.mpr ⟨hc, h.1⟩, h.2⟩

/-- The tokens of a layout are its lexemes, wherever it starts. -/
@[simp]
theorem map_lexeme_tokensFrom (offset : Nat) (layout : Layout) :
    (layout.tokensFrom offset).map Token.lexeme = layout.lexemes := by
  induction layout generalizing offset with
  | done gap => rfl
  | next gap l rest ih => simp [tokensFrom, lexemes, ih]

/-- Each token of a layout stands in its text, behind as many bytes as its offset says. -/
theorem exists_text_eq_of_mem_tokensFrom {offset : Nat} {layout : Layout} {t : Token}
    (ht : t ∈ layout.tokensFrom offset) :
    ∃ before after, layout.text = before ++ (t.lexeme.written.toList ++ after) ∧
      t.offset = offset + Text.byteLength before := by
  induction layout generalizing offset with
  | done gap => cases ht
  | next gap l rest ih =>
    rcases List.mem_cons.mp ht with rfl | ht
    · exact ⟨gap, rest.text, rfl, rfl⟩
    · rcases ih ht with ⟨before, after, htext, hoffset⟩
      refine ⟨gap ++ (l.written.toList ++ before), after, ?_, ?_⟩
      · rw [text, htext]
        simp only [List.append_assoc]
      · rw [hoffset]
        simp only [Text.byteLength_append]
        omega

/-- A text starts with no bare character if its first lexeme stands behind a gap or is
no word without quotes. -/
theorem isBare_head_text_eq_false {layout : Layout} (hspaced : layout.Spaced)
    (hgap : ∀ l ∈ layout.lexemes.head?, l.isUnquoted = true → layout.gap ≠ []) :
    ∀ c ∈ layout.text.head?, isBare c = false := by
  intro c hc
  match layout with
  | .done gap =>
    exact isBare_of_isBlank (hspaced c (List.mem_of_mem_head? hc))
  | .next (b :: bs) l rest =>
    obtain rfl : b = c := by simpa [text] using hc
    exact isBare_of_isBlank (hspaced.1 b List.mem_cons_self)
  | .next [] l rest =>
    have hquoted : l.isUnquoted = false := by
      cases h : l.isUnquoted with
      | false => rfl
      | true => exact absurd rfl (hgap l rfl h)
    rcases Lexeme.written_of_not_isUnquoted hquoted with ⟨d, ds, hds, hd⟩
    obtain rfl : d = c := by simpa [text, hds] using hc
    exact Bool.eq_false_iff.mpr fun h => (isBare_eq_true_iff.mp h).2 hd

/-- If a text starts with no bare character, a first word without quotes stands behind a
gap. -/
theorem gap_ne_nil {layout : Layout} (hwell : ∀ l ∈ layout.lexemes, l.WellFormed)
    (hhead : ∀ c ∈ layout.text.head?, isBare c = false) :
    ∀ l ∈ layout.lexemes.head?, l.isUnquoted = true → layout.gap ≠ [] := by
  intro l hl hunquoted hgap
  match layout with
  | .next [] l' rest =>
    obtain rfl : l' = l := by simpa [lexemes] using hl
    rcases l'.written_of_isUnquoted (hwell l' List.mem_cons_self) hunquoted with ⟨hne, hbare⟩
    rcases List.exists_cons_of_ne_nil hne with ⟨c, cs, hcs⟩
    have hc : isBare c = true := hbare c (by simp [hcs])
    rw [hhead c (by simp [text, hcs])] at hc
    cases hc

/-- The layout writes the characters `cs`, and from byte `offset` on they are `tokens`. -/
structure Writes (layout : Layout) (offset : Nat) (cs : List Char) (tokens : List Token) :
    Prop where
  spaced : layout.Spaced
  wellFormed : ∀ l ∈ layout.lexemes, l.WellFormed
  text_eq : layout.text = cs
  tokens_eq : layout.tokensFrom offset = tokens

/-- The lexemes of a layout are well formed exactly if those of its tokens are. -/
theorem writes_iff {layout : Layout} {offset : Nat} {cs : List Char} {tokens : List Token} :
    layout.Writes offset cs tokens ↔ (∀ t ∈ tokens, t.lexeme.WellFormed) ∧
      layout.Spaced ∧ layout.text = cs ∧ layout.tokensFrom offset = tokens := by
  have hwell : layout.tokensFrom offset = tokens →
      ((∀ l ∈ layout.lexemes, l.WellFormed) ↔ ∀ t ∈ tokens, t.lexeme.WellFormed) := by
    intro htokens
    rw [← map_lexeme_tokensFrom offset, htokens, List.forall_mem_map]
  constructor
  · intro h
    exact ⟨(hwell h.tokens_eq).mp h.wellFormed, h.spaced, h.text_eq, h.tokens_eq⟩
  · rintro ⟨hlexemes, hspaced, htext, htokens⟩
    exact ⟨hspaced, (hwell htokens).mpr hlexemes, htext, htokens⟩

/-- A blank in front shifts the tokens. -/
theorem Writes.indent {layout : Layout} {offset : Nat} {c : Char} {cs : List Char}
    {tokens : List Token} (hc : Text.isBlank c = true)
    (h : layout.Writes (offset + c.utf8Size) cs tokens) :
    (layout.indent c).Writes offset (c :: cs) tokens where
  spaced := h.spaced.indent hc
  wellFormed := by simpa using h.wellFormed
  text_eq := by rw [text_indent, h.text_eq]
  tokens_eq := by rw [tokensFrom_indent, h.tokens_eq]

/-- A lexeme in front is a token more, if what follows cannot be part of it. -/
theorem Writes.next {layout : Layout} {offset : Nat} {l : Lexeme} {cs : List Char}
    {tokens : List Token} (hl : l.WellFormed)
    (hcs : l.isUnquoted = true → ∀ c ∈ cs.head?, isBare c = false)
    (h : layout.Writes (offset + Text.byteLength l.written.toList) cs tokens) :
    (Layout.next [] l layout).Writes offset (l.written.toList ++ cs) (⟨l, offset⟩ :: tokens) where
  spaced := by
    refine ⟨by simp, ?_, h.spaced⟩
    intro hunquoted
    exact gap_ne_nil h.wellFormed (h.text_eq ▸ hcs hunquoted)
  wellFormed := List.forall_mem_cons.mpr ⟨hl, h.wellFormed⟩
  text_eq := by rw [text, h.text_eq, List.nil_append]
  tokens_eq := by
    rw [← h.tokens_eq]
    simp [tokensFrom]

/-- The blanks in front of the first lexeme are those that the text starts with. -/
theorem takeWhile_text {gap : List Char} {l : Lexeme} {rest : Layout}
    (hgap : ∀ c ∈ gap, Text.isBlank c = true) (hl : l.WellFormed) :
    (Layout.next gap l rest).text.takeWhile Text.isBlank = gap := by
  rcases l.exists_written_eq_cons hl with ⟨c, cs, hcs, hc⟩
  exact (takeWhile_append_of_head hgap (by simp [hcs, hc])).1

/-- A spaced layout is determined by its lexemes and its text. -/
theorem eq_of_text_eq {layout layout' : Layout} (hspaced : layout.Spaced)
    (hspaced' : layout'.Spaced) (hwell : ∀ l ∈ layout.lexemes, l.WellFormed)
    (hlexemes : layout.lexemes = layout'.lexemes) (htext : layout.text = layout'.text) :
    layout = layout' := by
  induction layout generalizing layout' with
  | done gap =>
    cases layout' with
    | done gap' => exact congrArg Layout.done htext
    | next gap' l' rest' => cases hlexemes
  | next gap l rest ih =>
    cases layout' with
    | done gap' => cases hlexemes
    | next gap' l' rest' =>
      rcases List.cons.inj hlexemes with ⟨rfl, hrest⟩
      have hl : l.WellFormed := hwell l List.mem_cons_self
      have hgap : gap = gap' := by
        rw [← @takeWhile_text gap l rest hspaced.1 hl, htext, takeWhile_text hspaced'.1 hl]
      subst hgap
      have htail : rest.text = rest'.text :=
        List.append_cancel_left (List.append_cancel_left htext)
      rw [ih hspaced.2.2 hspaced'.2.2 (fun l' hl' => hwell l' (List.mem_cons_of_mem l hl'))
        hrest htail]

end Layout
end HostFilter
