import HostFilter.Proofs.Token.Layout
import Mathlib

/-!
# Scanning undoes writing

The scanner takes the longest word, goes from quote to quote, and looks for keywords only
when a word is cut.  Against a layout this is simple: each lexeme is read back where it
is written, if no bare character follows a word without quotes, and a spaced layout keeps
such words apart.  In the other direction every step of the scanner puts a blank or a
lexeme in front of the layout of the rest.

Main results:

- Theorem `scanFrom_written`: a lexeme is read back where it is written.
- Theorem `scanFrom_eq_ok_iff`: a text is cut into tokens exactly if a layout writes it.
- Theorem `scanFrom_append`: scanning goes over a seam where no bare character comes next.
- Theorem `Lexes.append`: across such a seam the lexemes of two texts follow each other.
- Theorem `scan_iff_written`: cutting a text into tokens is undoing the one layout that
  writes them, and offsets count the bytes in front.
-/

namespace HostFilter
namespace Token

/-! ## One step of the scanner -/

/-- Blanks are passed over. -/
theorem scanFrom_blanks {gap : List Char} (hgap : ∀ c ∈ gap, Text.isBlank c = true)
    (offset : Nat) (cs : List Char) :
    scanFrom offset (gap ++ cs) = scanFrom (offset + Text.byteLength gap) cs := by
  induction gap generalizing offset with
  | nil => simp
  | cons c gap ih =>
    rcases List.forall_mem_cons.mp hgap with ⟨hc, hgap⟩
    rw [List.cons_append, scanFrom, if_pos hc, ih hgap, Text.byteLength_cons, Nat.add_assoc]

/-- What stands between two quotes is one quoted word. -/
theorem scanFrom_quoted {inner : List Char} (hinner : '"' ∉ inner) (offset : Nat)
    (cs : List Char) :
    scanFrom offset ('"' :: (inner ++ '"' :: cs)) =
      (scanFrom (offset + Text.byteLength inner + 2) cs).map
        (⟨Lexeme.ofQuoted inner, offset⟩ :: ·) := by
  have hall : ∀ c ∈ inner, decide (c ≠ '"') = true := by
    intro c hc
    simpa using fun h : c = '"' => hinner (h ▸ hc)
  rcases takeWhile_append_of_head hall (show ∀ c ∈ ('"' :: cs).head?, _ by simp) with
    ⟨htake, hdrop⟩
  rw [scanFrom, if_neg (by decide), if_neg (by decide), if_neg (by decide),
    if_neg (by decide), if_pos rfl]
  split
  · rename_i h
    rw [hdrop] at h
    cases h
  · rename_i rest h
    rw [hdrop] at h
    cases h
    rw [htake]

/-- A run of bare characters with no such character behind it is one lexeme. -/
theorem scanFrom_bare {run : List Char} (hne : run ≠ []) (hrun : ∀ c ∈ run, isBare c = true)
    {cs : List Char} (hcs : ∀ c ∈ cs.head?, isBare c = false) (offset : Nat) :
    scanFrom offset (run ++ cs) =
      (scanFrom (offset + Text.byteLength run) cs).map (⟨Lexeme.ofBare run, offset⟩ :: ·) := by
  cases run with
  | nil => exact absurd rfl hne
  | cons c run =>
    rcases List.forall_mem_cons.mp hrun with ⟨hc, hrun⟩
    rcases isBare_eq_true_iff.mp hc with ⟨hblank, hdelimiter⟩
    simp only [List.mem_cons, not_or] at hdelimiter
    rcases takeWhile_append_of_head hrun hcs with ⟨htake, hdrop⟩
    rw [List.cons_append, scanFrom, if_neg (by simp [hblank]), if_neg hdelimiter.1,
      if_neg hdelimiter.2.1, if_neg hdelimiter.2.2.1, if_neg hdelimiter.2.2.2.1]
    simp only [htake, hdrop]

/-- A lexeme is read back where it is written, if what follows cannot be part of it. -/
theorem scanFrom_written {l : Lexeme} (hl : l.WellFormed) {cs : List Char}
    (hcs : l.isUnquoted = true → ∀ c ∈ cs.head?, isBare c = false) (offset : Nat) :
    scanFrom offset (l.written.toList ++ cs) =
      (scanFrom (offset + Text.byteLength l.written.toList) cs).map (⟨l, offset⟩ :: ·) := by
  cases hunquoted : l.isUnquoted with
  | true =>
    rcases l.written_of_isUnquoted hl hunquoted with ⟨hne, hbare⟩
    rw [scanFrom_bare hne hbare (hcs hunquoted), l.ofBare_written hl hunquoted]
  | false =>
    match l with
    | .word ⟨text, true⟩ =>
      have hquoted : Lexeme.word ⟨text, true⟩ = Lexeme.ofQuoted text.toList := by
        rw [Lexeme.ofQuoted, String.ofList_toList]
      rw [hquoted, Lexeme.byteLength_written_ofQuoted, Lexeme.written_ofQuoted,
        List.cons_append, List.append_assoc, List.singleton_append, scanFrom_quoted hl.1,
        Nat.add_assoc]
    | .opening =>
      show scanFrom offset ('(' :: cs) = _
      rw [scanFrom, if_neg (by decide), if_pos rfl]
      rfl
    | .closing =>
      show scanFrom offset (')' :: cs) = _
      rw [scanFrom, if_neg (by decide), if_neg (by decide), if_pos rfl]
      rfl
    | .equals =>
      show scanFrom offset ('=' :: cs) = _
      rw [scanFrom, if_neg (by decide), if_neg (by decide), if_neg (by decide), if_pos rfl]
      rfl

/-! ## Scanning what a layout writes -/

/-- The text of a spaced layout is cut into the tokens of the layout, whatever follows it
that cannot be part of its last word. -/
theorem scanFrom_text_append {layout : Layout} (hspaced : layout.Spaced)
    (hwell : ∀ l ∈ layout.lexemes, l.WellFormed) {ds : List Char}
    (hds : ∀ c ∈ ds.head?, isBare c = false) (offset : Nat) :
    scanFrom offset (layout.text ++ ds) =
      (scanFrom (offset + Text.byteLength layout.text) ds).map (layout.tokensFrom offset ++ ·) := by
  induction layout generalizing offset with
  | done gap =>
    rw [Layout.text, scanFrom_blanks hspaced]
    cases scanFrom (offset + Text.byteLength gap) ds <;> rfl
  | next gap l rest ih =>
    rcases hspaced with ⟨hgap, hseparate, hrest⟩
    rcases List.forall_mem_cons.mp hwell with ⟨hl, hwell⟩
    -- The character behind the lexeme is that of the rest, or of `ds` if the rest is empty.
    have hhead : l.isUnquoted = true → ∀ c ∈ (rest.text ++ ds).head?, isBare c = false := by
      intro hunquoted c hc
      rw [List.head?_append] at hc
      rcases Option.or_eq_some_iff.mp hc with hc | ⟨-, hc⟩
      · exact Layout.isBare_head_text_eq_false hrest (hseparate hunquoted) c hc
      · exact hds c hc
    rw [Layout.text, List.append_assoc, List.append_assoc, scanFrom_blanks hgap,
      scanFrom_written hl hhead, ih hrest hwell]
    simp only [Layout.tokensFrom, Text.byteLength_append, Nat.add_assoc]
    cases scanFrom _ ds <;> rfl

/-- The text of a spaced layout is cut into the tokens of the layout. -/
theorem scanFrom_text {layout : Layout} (hspaced : layout.Spaced)
    (hwell : ∀ l ∈ layout.lexemes, l.WellFormed) (offset : Nat) :
    scanFrom offset layout.text = .ok (layout.tokensFrom offset) := by
  have h := scanFrom_text_append hspaced hwell (show ∀ c ∈ [].head?, _ by simp) offset
  rw [List.append_nil, scanFrom] at h
  simpa [Except.map] using h

/-- A step that cuts off a lexeme has a layout of what it read, if the steps behind it
have one. -/
theorem exists_layout_step {l : Lexeme} {offset : Nat} {cs : List Char} {tokens : List Token}
    {result : Except Nat (List Token)} (hl : l.WellFormed)
    (hcs : l.isUnquoted = true → ∀ c ∈ cs.head?, isBare c = false)
    (h : result.map (⟨l, offset⟩ :: ·) = .ok tokens)
    (ih : ∀ others, result = .ok others →
      ∃ layout : Layout, layout.Writes (offset + Text.byteLength l.written.toList) cs others) :
    ∃ layout : Layout, layout.Writes offset (l.written.toList ++ cs) tokens := by
  cases result with
  | error e => cases h
  | ok others =>
    cases h
    rcases ih others rfl with ⟨layout, hwrites⟩
    exact ⟨.next [] l layout, hwrites.next hl hcs⟩

/-- Tokens that a text is cut into are those of a spaced layout of the text. -/
theorem exists_layout {offset : Nat} {cs : List Char} {tokens : List Token}
    (h : scanFrom offset cs = .ok tokens) :
    ∃ layout : Layout, layout.Writes offset cs tokens := by
  fun_induction scanFrom offset cs generalizing tokens with
  | case1 offset =>
    cases h
    exact ⟨.done [], by simp [Layout.Spaced], by simp [Layout.lexemes], rfl, rfl⟩
  | case2 offset c cs hblank ih =>
    rcases ih h with ⟨layout, hwrites⟩
    exact ⟨layout.indent c, hwrites.indent hblank⟩
  | case3 offset cs _ ih =>
    exact @exists_layout_step .opening _ _ _ _ trivial (by simp [Lexeme.isUnquoted]) h (@ih)
  | case4 offset cs _ _ ih =>
    exact @exists_layout_step .closing _ _ _ _ trivial (by simp [Lexeme.isUnquoted]) h (@ih)
  | case5 offset cs _ _ _ ih =>
    exact @exists_layout_step .equals _ _ _ _ trivial (by simp [Lexeme.isUnquoted]) h (@ih)
  | case6 offset cs => cases h
  | case7 offset cs inner q rest hdrop =>
    rename_i ih
    rcases takeWhile_ends (· ≠ '"') cs with ⟨hinner, hstop⟩
    have hq : q = '"' := by simpa using hstop q (by rw [hdrop]; rfl)
    have hcs : '"' :: cs = (Lexeme.ofQuoted inner).written.toList ++ rest := by
      rw [Lexeme.written_ofQuoted, List.cons_append, List.append_assoc, List.singleton_append,
        ← hq, ← hdrop, List.takeWhile_append_dropWhile]
    have hwell : (Lexeme.ofQuoted inner).WellFormed :=
      Lexeme.wellFormed_ofQuoted fun hmem => by simpa using hinner _ hmem
    rw [hcs]
    apply exists_layout_step hwell (by simp [Lexeme.ofQuoted, Lexeme.isUnquoted]) h
    intro others hothers
    rw [Lexeme.byteLength_written_ofQuoted, ← Nat.add_assoc]
    exact ih hothers
  | case8 offset c cs hblank hopening hclosing hequals hquote run =>
    rename_i ih
    rcases takeWhile_ends isBare cs with ⟨hrun, hstop⟩
    have hc : isBare c = true := by
      rw [isBare_eq_true_iff]
      simp [hblank, hopening, hclosing, hequals, hquote]
    have hcs : c :: cs = (Lexeme.ofBare run).written.toList ++ cs.dropWhile isBare := by
      rw [Lexeme.written_ofBare, List.cons_append, List.takeWhile_append_dropWhile]
    have hwell : (Lexeme.ofBare run).WellFormed :=
      Lexeme.wellFormed_ofBare (List.cons_ne_nil _ _) (List.forall_mem_cons.mpr ⟨hc, hrun⟩)
    rw [hcs]
    apply exists_layout_step hwell (fun _ => hstop) h
    intro others hothers
    rw [Lexeme.written_ofBare]
    exact ih hothers

/-- Characters are cut into tokens exactly if a layout writes them. -/
theorem scanFrom_eq_ok_iff {offset : Nat} {cs : List Char} {tokens : List Token} :
    scanFrom offset cs = .ok tokens ↔ ∃ layout : Layout, layout.Writes offset cs tokens := by
  constructor
  · exact exists_layout
  · rintro ⟨layout, hwrites⟩
    rw [← hwrites.text_eq, ← hwrites.tokens_eq]
    exact scanFrom_text hwrites.spaced hwrites.wellFormed offset

/-- Scanning goes over a seam where no bare character comes next: the tokens in front of
it are those of the text in front, and the rest is cut as it would be alone. -/
theorem scanFrom_append {offset : Nat} {cs ds : List Char} {tokens : List Token}
    (h : scanFrom offset cs = .ok tokens) (hds : ∀ c ∈ ds.head?, isBare c = false) :
    scanFrom offset (cs ++ ds) =
      (scanFrom (offset + Text.byteLength cs) ds).map (tokens ++ ·) := by
  rcases exists_layout h with ⟨layout, hwrites⟩
  rw [← hwrites.text_eq, ← hwrites.tokens_eq]
  exact scanFrom_text_append hwrites.spaced hwrites.wellFormed hds offset

/-! ## The lexemes of a text -/

/-- The characters are cut into these lexemes, wherever they start. -/
def Lexes (cs : List Char) (ls : List Lexeme) : Prop :=
  ∀ offset, ∃ tokens, scanFrom offset cs = .ok tokens ∧ tokens.map Token.lexeme = ls

/-- The lexemes of a text do not depend on where it starts. -/
theorem lexes_of_scanFrom {offset : Nat} {cs : List Char} {tokens : List Token}
    (h : scanFrom offset cs = .ok tokens) : Lexes cs (tokens.map Token.lexeme) := by
  intro offset'
  rcases exists_layout h with ⟨layout, hwrites⟩
  refine ⟨layout.tokensFrom offset', ?_, ?_⟩
  · rw [← hwrites.text_eq]
    exact scanFrom_text hwrites.spaced hwrites.wellFormed offset'
  · rw [← hwrites.tokens_eq, Layout.map_lexeme_tokensFrom, Layout.map_lexeme_tokensFrom]

/-- A blank in front adds no lexeme. -/
theorem Lexes.blank {c : Char} {cs : List Char} {ls : List Lexeme} (hc : Text.isBlank c = true)
    (h : Lexes cs ls) : Lexes (c :: cs) ls := by
  intro offset
  rw [scanFrom, if_pos hc]
  exact h (offset + c.utf8Size)

/-- A lexeme in front is a lexeme more, if what follows cannot be part of it. -/
theorem Lexes.written {l : Lexeme} {cs : List Char} {ls : List Lexeme} (hl : l.WellFormed)
    (hcs : l.isUnquoted = true → ∀ c ∈ cs.head?, isBare c = false) (h : Lexes cs ls) :
    Lexes (l.written.toList ++ cs) (l :: ls) := by
  intro offset
  rcases h (offset + Text.byteLength l.written.toList) with ⟨tokens, hscan, rfl⟩
  exact ⟨⟨l, offset⟩ :: tokens, by rw [scanFrom_written hl hcs, hscan]; rfl, rfl⟩

/-- Two texts with a seam between them where no bare character comes next have the lexemes
of both. -/
theorem Lexes.append {cs ds : List Char} {ls ms : List Lexeme} (hcs : Lexes cs ls)
    (hds : Lexes ds ms) (hseam : ∀ c ∈ ds.head?, isBare c = false) :
    Lexes (cs ++ ds) (ls ++ ms) := by
  intro offset
  rcases hcs offset with ⟨tokens, hscan, rfl⟩
  rcases hds (offset + Text.byteLength cs) with ⟨tokens', hscan', rfl⟩
  refine ⟨tokens ++ tokens', ?_, List.map_append⟩
  rw [scanFrom_append hscan hseam, hscan']
  rfl

/-! ## Scanning is undoing a layout -/

/-- Two spaced layouts of one text are the same. -/
theorem layout_unique {offset : Nat} {cs : List Char} {tokens tokens' : List Token}
    {layout layout' : Layout} (h : layout.Writes offset cs tokens)
    (h' : layout'.Writes offset cs tokens') : layout = layout' := by
  have hscan := scanFrom_text h.spaced h.wellFormed offset
  have hscan' := scanFrom_text h'.spaced h'.wellFormed offset
  rw [h.text_eq] at hscan
  rw [h'.text_eq, hscan] at hscan'
  have htokens : layout.tokensFrom offset = layout'.tokensFrom offset := Except.ok.inj hscan'
  have hlexemes : layout.lexemes = layout'.lexemes := by
    rw [← Layout.map_lexeme_tokensFrom offset, htokens, Layout.map_lexeme_tokensFrom]
  exact Layout.eq_of_text_eq h.spaced h'.spaced h.wellFormed hlexemes
    (h.text_eq.trans h'.text_eq.symm)

/-- A text is cut into tokens exactly if they are well formed and it writes them with
blanks around them.  There is only one way to write a text so, whatever the tokens; and each
token stands in the text where its offset says. -/
theorem scan_iff_written (filter : String) (tokens : List Token) :
    (scan filter = .ok tokens ↔
      (∀ t ∈ tokens, t.lexeme.WellFormed) ∧
        ∃ layout : Layout, layout.Spaced ∧ layout.text = filter.toList ∧
          layout.tokensFrom 0 = tokens) ∧
      (∀ (tokens' : List Token) (layout layout' : Layout),
        (∀ t ∈ tokens, t.lexeme.WellFormed) → (∀ t ∈ tokens', t.lexeme.WellFormed) →
        layout.Spaced ∧ layout.text = filter.toList ∧ layout.tokensFrom 0 = tokens →
        layout'.Spaced ∧ layout'.text = filter.toList ∧ layout'.tokensFrom 0 = tokens' →
        layout = layout' ∧ tokens = tokens') ∧
      (scan filter = .ok tokens → ∀ t ∈ tokens, ∃ before after : String,
        filter = before ++ t.lexeme.written ++ after ∧ t.offset = before.utf8ByteSize) := by
  have hiff : scan filter = .ok tokens ↔
      ∃ layout : Layout, layout.Writes 0 filter.toList tokens := scanFrom_eq_ok_iff
  refine ⟨⟨?_, ?_⟩, ?_, ?_⟩
  · intro h
    rcases hiff.mp h with ⟨layout, hwrites⟩
    rcases Layout.writes_iff.mp hwrites with ⟨hwell, hlayout⟩
    exact ⟨hwell, layout, hlayout⟩
  · rintro ⟨hwell, layout, hlayout⟩
    exact hiff.mpr ⟨layout, Layout.writes_iff.mpr ⟨hwell, hlayout⟩⟩
  · intro tokens' layout layout' hwell hwell' hlayout hlayout'
    have hwrites := Layout.writes_iff.mpr ⟨hwell, hlayout⟩
    have hwrites' := Layout.writes_iff.mpr ⟨hwell', hlayout'⟩
    obtain rfl : layout = layout' := layout_unique hwrites hwrites'
    exact ⟨rfl, hwrites.tokens_eq.symm.trans hwrites'.tokens_eq⟩
  · intro h t ht
    rcases hiff.mp h with ⟨layout, hwrites⟩
    rw [← hwrites.tokens_eq] at ht
    rcases Layout.exists_text_eq_of_mem_tokensFrom ht with ⟨before, after, htext, hoffset⟩
    refine ⟨String.ofList before, String.ofList after, ?_, ?_⟩
    · apply String.toList_injective
      rw [← hwrites.text_eq, htext]
      simp
    · rw [hoffset, Nat.zero_add, Text.utf8ByteSize_ofList]

/-- A word may stand right behind a quote and right in front of a parenthesis, and letters
of two bytes count twice. -/
theorem scan_iff_written_glued :
    (∃! layout : Layout, layout.Spaced ∧ layout.text = "é= \"x y\"or(b".toList ∧
        layout.tokensFrom 0 = [⟨.word (.bare "é"), 0⟩, ⟨.equals, 2⟩, ⟨.word ⟨"x y", true⟩, 4⟩,
          ⟨.keyword .or, 9⟩, ⟨.opening, 11⟩, ⟨.word (.bare "b"), 12⟩]) ∧
      ∃ before after : String, "é= \"x y\"or(b" = before ++ "or" ++ after ∧
        9 = before.utf8ByteSize := by
  have hscan : scan "é= \"x y\"or(b" = .ok [⟨.word (.bare "é"), 0⟩, ⟨.equals, 2⟩,
      ⟨.word ⟨"x y", true⟩, 4⟩, ⟨.keyword .or, 9⟩, ⟨.opening, 11⟩, ⟨.word (.bare "b"), 12⟩] := by
    cbv
  rcases scan_iff_written _ _ with ⟨hiff, hunique, hoffset⟩
  rcases hiff.mp hscan with ⟨hwell, layout, hlayout⟩
  refine ⟨⟨layout, hlayout, ?_⟩, hoffset hscan ⟨.keyword .or, 9⟩ (by simp)⟩
  intro layout' hlayout'
  exact (hunique _ layout' layout hwell hwell hlayout' hlayout).1

end Token
end HostFilter
