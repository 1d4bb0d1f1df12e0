import LayoutCompose.Number.Single

/-!
Decimal numerals: an optional sign, digits with an optional point, and an optional exponent.
-/

namespace LayoutCompose

/-- The number `digits * 10 ^ exponent`, or its opposite. -/
structure Decimal where
  negative : Bool
  digits : Nat
  exponent : Int
  deriving DecidableEq, Repr

namespace Decimal

def ofDigits (cs : List Char) : Nat :=
  cs.foldl (fun n c => 10 * n + (c.toNat - 48)) 0

def splitSign : List Char → Bool × List Char
  | '-' :: cs => (true, cs)
  | '+' :: cs => (false, cs)
  | cs => (false, cs)

/-- The exponent part of a numeral, where nothing stands for zero. -/
def readExponent? : List Char → Option Int
  | [] => some 0
  | c :: cs =>
    if c = 'e' ∨ c = 'E' then
      let (negative, ds) := splitSign cs
      if ds.isEmpty || !ds.all Char.isDigit then none
      else if negative then some (-(ofDigits ds : Int)) else some (ofDigits ds)
    else none

/-- Reads a whole text as a numeral. There is a digit before or after the point. -/
def read? (cs : List Char) : Option Decimal :=
  let (negative, cs) := splitSign cs
  let whole := cs.takeWhile Char.isDigit
  let rest := cs.dropWhile Char.isDigit
  let (places, rest) :=
    match rest with
    | '.' :: rest => (rest.takeWhile Char.isDigit, rest.dropWhile Char.isDigit)
    | rest => ([], rest)
  if whole.isEmpty && places.isEmpty then none
  else (readExponent? rest).map fun e =>
    ⟨negative, ofDigits (whole ++ places), e - places.length⟩

/-- The nearest number of 32 bits. Where the first digit stands beyond the thirty-ninth place
before or the forty-sixth place after the point, the result is infinite or zero, and the power
of ten is not computed. -/
def toSingle (d : Decimal) : Single :=
  let places : Int := (Nat.toDigits 10 d.digits).length + d.exponent
  if d.digits = 0 ∨ places < -45 then { Single.zero with negative := d.negative }
  else if 39 < places then Single.infinity d.negative
  else Single.ofRatio d.negative
    (d.digits * Nat.pow 10 d.exponent.toNat * Single.unitsOne) (Nat.pow 10 (-d.exponent).toNat)

end Decimal

end LayoutCompose
