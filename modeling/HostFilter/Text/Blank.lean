/-!
# Blanks

The characters that separate words: exactly those with the Unicode property
White_Space.  The property is listed as a table of closed ranges of code points
in increasing order.
-/

namespace HostFilter
namespace Text

/-- Does the code point of `c` lie in one of the closed ranges?  The ranges stand
in increasing order, so the search ends at the first one that starts above it. -/
def inRanges : List (Nat × Nat) → Char → Bool
  | [], _ => false
  | (low, high) :: ranges, c => low ≤ c.toNat && (c.toNat ≤ high || inRanges ranges c)

/-- The ranges of code points with the property White_Space. -/
def blankRanges : List (Nat × Nat) :=
  [(0x0009, 0x000D), (0x0020, 0x0020), (0x0085, 0x0085), (0x00A0, 0x00A0), (0x1680, 0x1680),
   (0x2000, 0x200A), (0x2028, 0x2029), (0x202F, 0x202F), (0x205F, 0x205F), (0x3000, 0x3000)]

/-- A blank is a character with the property White_Space. -/
def isBlank (c : Char) : Bool :=
  inRanges blankRanges c

end Text
end HostFilter
