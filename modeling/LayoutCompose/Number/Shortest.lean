import LayoutCompose.Number.Single

/-!
The shortest decimal text of a number.

The decimals that read back as a given number fill an interval around it. Of the grids of
multiples of a power of ten, the coarsest one with a point in that interval gives the fewest
digits; of its two points next to the number the nearer is taken, and the greater in a tie.
-/

namespace LayoutCompose.Shortest

/-- The quarters of a unit at which the interval of a finite non-zero number begins and ends,
with the number itself in between; the ends belong to it if `closed`. -/
structure Interval where
  lower : Nat
  value : Nat
  upper : Nat
  closed : Bool
  deriving DecidableEq, Repr

/-- The reals that round to `x`, sign aside. Just above a power of two the gap below is half as
wide as the gap above. -/
def Interval.of (x : Single) : Interval :=
  let gap := Nat.pow 2 (x.exponent.val - 1)
  let below := if x.fraction.val = 0 ∧ x.exponent.val ≠ 0 then gap else 2 * gap
  let value := 4 * x.magnitude
  ⟨value - below, value, value + 2 * gap, x.fraction.val % 2 == 0⟩

/-- Whether `num / den` quarters of a unit lie in the interval. -/
def Interval.contains (i : Interval) (num den : Nat) : Bool :=
  if i.closed then i.lower * den ≤ num && num ≤ i.upper * den
  else i.lower * den < num && num < i.upper * den

def quartersOne : Nat := Nat.pow 2 151

/-- The multiple of `10 ^ k` in the interval that is nearest to the number. -/
def onGrid (i : Interval) (k : Int) : Option Nat :=
  let step := Nat.pow 10 k.toNat * quartersOne
  let den := Nat.pow 10 (-k).toNat
  let n := i.value * den / step
  let low := i.contains (n * step) den
  let high := i.contains ((n + 1) * step) den
  if low && high then
    some (if 2 * (i.value * den - n * step) < step then n else n + 1)
  else if low then some n
  else if high then some (n + 1)
  else none

def grids : List Int :=
  (List.range 189).map fun (i : Nat) => (39 : Int) - i

def digits (x : Single) : Nat × Int :=
  (grids.findSome? fun k => (onGrid (Interval.of x) k).map fun n => (n, k)).getD (0, 0)

/-- Writes `n * 10 ^ k` without an exponent. -/
def positional (n : Nat) (k : Int) : String :=
  let ds := Nat.toDigits 10 n
  let places := (-k).toNat
  if places = 0 then String.ofList (ds ++ List.replicate k.toNat '0')
  else
    let ds := List.replicate (places + 1 - ds.length) '0' ++ ds
    String.ofList (ds.take (ds.length - places) ++ '.' :: ds.drop (ds.length - places))

/-- The shortest decimal that reads back as the number, never with an exponent. -/
def text (x : Single) : String :=
  let sign := if x.negative then "-" else ""
  if x.isNaN then "NaN"
  else if !x.isFinite then sign ++ "inf"
  else if x.magnitude = 0 then sign ++ "0"
  else
    let (n, k) := digits x
    sign ++ positional n k

end LayoutCompose.Shortest
