import HostFilter.Text.Blank
import HostFilter.Text.Measure
import HostFilter.Token.Basic

/-!
# Cutting a filter into tokens

Blanks are dropped, a quoted word reaches to the next quote, and a bare word is the
longest run of characters that neither separate nor delimit.  The only failure is a
quote without a partner.

Main results:

- Theorem `length_dropWhile_le`: no step makes the rest longer, so cutting comes to
  an end.
-/

namespace HostFilter

/-- A character of a bare word: no blank, parenthesis, equals sign or quote. -/
def isBare (c : Char) : Bool :=
  !(Text.isBlank c || c = '(' || c = ')' || c = '=' || c = '"')

namespace Lexeme

/-- The lexeme of a run of bare characters: a keyword, or the word itself. -/
def ofBare (cs : List Char) : Lexeme :=
  if cs = ['a', 'n', 'd'] then .keyword .and
  else if cs = ['o', 'r'] then .keyword .or
  else .word (.bare (String.ofList cs))

/-- The quoted word of the characters between two quotes. -/
def ofQuoted (cs : List Char) : Lexeme :=
  .word ⟨String.ofList cs, true⟩

end Lexeme

namespace Token

/-- What is left behind a run of characters is no longer than before. -/
theorem length_dropWhile_le (p : Char → Bool) (cs : List Char) :
    (cs.dropWhile p).length ≤ cs.length :=
  (List.dropWhile_sublist p).length_le

/-- The tokens of the characters from byte `offset` on, or the offset of a quote
without a partner. -/
def scanFrom (offset : Nat) : List Char → Except Nat (List Token)
  | [] => .ok []
  | c :: cs =>
    if Text.isBlank c then scanFrom (offset + c.utf8Size) cs
    else if c = '(' then (scanFrom (offset + 1) cs).map (⟨.opening, offset⟩ :: ·)
    else if c = ')' then (scanFrom (offset + 1) cs).map (⟨.closing, offset⟩ :: ·)
    else if c = '=' then (scanFrom (offset + 1) cs).map (⟨.equals, offset⟩ :: ·)
    else if c = '"' then
      let inner := cs.takeWhile (· ≠ '"')
      match _h : cs.dropWhile (· ≠ '"') with
      | [] => .error offset
      | _ :: rest =>
        (scanFrom (offset + Text.byteLength inner + 2) rest).map
          (⟨Lexeme.ofQuoted inner, offset⟩ :: ·)
    else
      let run := c :: cs.takeWhile isBare
      (scanFrom (offset + Text.byteLength run) (cs.dropWhile isBare)).map
        (⟨Lexeme.ofBare run, offset⟩ :: ·)
termination_by cs => cs.length
decreasing_by
  all_goals simp_wf
  · have h := length_dropWhile_le (· ≠ '"') cs
    rw [_h, List.length_cons] at h
    omega
  · have h := length_dropWhile_le isBare cs
    omega

/-- The tokens of a filter, or the offset of a quote without a partner. -/
def scan (filter : String) : Except Nat (List Token) :=
  scanFrom 0 filter.toList

end Token
end HostFilter
