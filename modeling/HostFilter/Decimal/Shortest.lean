/-!
# Shortest decimals

The decimal with the fewest digits that lies nearer to a given double than to any
other, found in exact arithmetic.  A double stands for the interval of reals that
round to it; the decimals with exponent `k` form a grid with spacing `10 ^ k`,
and the coarsest grid with a point in the interval is searched for.  On a grid
only the two neighbours of the double matter: if any point of the grid lies in
the interval, one of these does.
-/

namespace HostFilter
namespace Decimal

/-- Which of two equally near neighbours is taken. -/
inductive Tie where
  | up
  | toEven

/-- The magnitude of a finite double and the reals that round to it, as integers
over the common denominator `unit`. -/
structure Neighbourhood where
  low : Nat
  mid : Nat
  high : Nat
  unit : Nat
  /-- Do the ends round to the double as well? -/
  closed : Bool

/-- The magnitude `mantissa · 2 ^ exponent` of a finite double. -/
structure Magnitude where
  mantissa : Nat
  exponent : Int
  /-- Is the next smaller double at half the distance of the next greater one? -/
  narrowBelow : Bool

namespace Magnitude

/-- Decode the fields of a finite double: 52 bits of fraction under 11 bits of
biased exponent. -/
def ofFloat (x : Float) : Magnitude :=
  let bits := x.toBits.toNat
  let fraction : Nat := bits % Nat.pow 2 52
  let biased : Nat := bits / Nat.pow 2 52 % Nat.pow 2 11
  if biased = 0 then ⟨fraction, -1074, false⟩
  else ⟨Nat.pow 2 52 + fraction, (biased : Int) - 1075, fraction = 0 && 1 < biased⟩

/-- The interval of reals that round to the double: half the distance to the next
double on either side, ends included when the mantissa is even. -/
def neighbourhood (m : Magnitude) : Neighbourhood :=
  let scale := Nat.pow 2 m.exponent.toNat
  { low := (4 * m.mantissa - if m.narrowBelow then 1 else 2) * scale
    mid := 4 * m.mantissa * scale
    high := (4 * m.mantissa + 2) * scale
    unit := 4 * Nat.pow 2 (-m.exponent).toNat
    closed := m.mantissa % 2 = 0 }

/-- An exponent of ten above the magnitude; `30103 / 100000` is the logarithm of
two to the base ten. -/
def ceiling (m : Magnitude) : Int :=
  (m.mantissa.log2 + 1 + m.exponent) * 30103 / 100000 + 2

end Magnitude

namespace Neighbourhood

/-- The same interval measured in units of `10 ^ k`. -/
def onGrid (n : Neighbourhood) (k : Int) : Neighbourhood :=
  let shrink := Nat.pow 10 (-k).toNat
  { n with
    low := n.low * shrink
    mid := n.mid * shrink
    high := n.high * shrink
    unit := n.unit * Nat.pow 10 k.toNat }

/-- Does the point `d` of the unit grid, not above the middle, lie in the interval? -/
def reachesDown (n : Neighbourhood) (d : Nat) : Bool :=
  n.low < d * n.unit || (n.closed && n.low = d * n.unit)

/-- Does the point `d` of the unit grid, not below the middle, lie in the interval? -/
def reachesUp (n : Neighbourhood) (d : Nat) : Bool :=
  d * n.unit < n.high || (n.closed && d * n.unit = n.high)

/-- Is `d + 1` to be preferred to `d` when both lie in the interval? -/
def prefersUpper (n : Neighbourhood) (tie : Tie) (d : Nat) : Bool :=
  match compare (2 * n.mid) ((2 * d + 1) * n.unit) with
  | .lt => false
  | .gt => true
  | .eq =>
    match tie with
    | .up => true
    | .toEven => d % 2 = 1

/-- The nearest point of the unit grid that lies in the interval, if there is one. -/
def point? (n : Neighbourhood) (tie : Tie) : Option Nat :=
  let d := n.mid / n.unit
  match n.reachesDown d, n.reachesUp (d + 1) with
  | true, true => some (if n.prefersUpper tie d then d + 1 else d)
  | true, false => some d
  | false, true => some (d + 1)
  | false, false => none

/-- Search the grids `10 ^ k, 10 ^ (k - 1), …`; the digits of the first point
found and its exponent. -/
def search (n : Neighbourhood) (tie : Tie) : Nat → Int → Nat × Int
  | 0, k => ((n.onGrid k).mid / (n.onGrid k).unit, k)
  | steps + 1, k =>
    match (n.onGrid k).point? tie with
    | some d => (d, k)
    | none => n.search tie steps (k - 1)

end Neighbourhood

/-- The shortest decimal `digits · 10 ^ exponent` that rounds to the magnitude of
a finite double other than zero.  Seventeen digits always suffice, so the search
ends within a few steps more than that. -/
def shortest (tie : Tie) (x : Float) : Nat × Int :=
  let m := Magnitude.ofFloat x
  m.neighbourhood.search tie 24 m.ceiling

end Decimal
end HostFilter
