/-!
Binary numbers of 32 bits with a sign, eight bits of exponent and 23 bits of fraction.

Every finite number is a whole multiple of the least positive one, `2 ^ (-149)`, called a unit
here. Arithmetic is done exactly on units and rounded once, to the nearest number and in a tie
to the one with an even last bit.
-/

namespace LayoutCompose

structure Single where
  negative : Bool
  exponent : Fin 256
  fraction : Fin 8388608
  deriving DecidableEq, Repr, Inhabited

namespace Single

/-- The distance from zero in units. For an infinity this is a value above all finite ones. -/
def magnitude (x : Single) : Nat :=
  if x.exponent.val = 0 then x.fraction.val
  else (8388608 + x.fraction.val) * Nat.pow 2 (x.exponent.val - 1)

/-- The value in units, with an infinity beyond all finite numbers. -/
def units (x : Single) : Int :=
  if x.negative then -(x.magnitude : Int) else x.magnitude

def isFinite (x : Single) : Bool :=
  x.exponent.val != 255

def isNaN (x : Single) : Bool :=
  x.exponent.val == 255 && x.fraction.val != 0

def zero : Single := ⟨false, 0, 0⟩

def nan : Single := ⟨false, 255, 4194304⟩

def infinity (negative : Bool) : Single := ⟨negative, 255, 0⟩

def unitsOne : Nat := Nat.pow 2 149

def ofBits (bits : UInt32) : Single :=
  let n := bits.toNat
  ⟨2147483648 ≤ n, Fin.ofNat 256 (n / 8388608), Fin.ofNat 8388608 n⟩

def toBits (x : Single) : UInt32 :=
  UInt32.ofNat
    ((if x.negative then 2147483648 else 0) + x.exponent.val * 8388608 + x.fraction.val)

/-- The whole number nearest to `num / den`; of two equally near ones the even one. -/
def divNearest (num den : Nat) : Nat :=
  let q := num / den
  let r := num % den
  if 2 * r < den then q
  else if den < 2 * r then q + 1
  else if q % 2 = 0 then q else q + 1

/-- How many bits of a magnitude are lost to keep 24 of them. -/
def excess (magnitude : Nat) : Nat :=
  magnitude.log2 - 23

/-- The number nearest to `num / den` units. A result of `2 ^ 128` or more is infinite. -/
def ofRatio (negative : Bool) (num den : Nat) : Single :=
  let shift := excess (num / den)
  let code := shift * 8388608 + divNearest num (den * Nat.pow 2 shift)
  if code < 2139095040 then
    ⟨negative, Fin.ofNat 256 (code / 8388608), Fin.ofNat 8388608 code⟩
  else infinity negative

def ofUnits (n : Int) : Single :=
  ofRatio (n < 0) n.natAbs 1

def ofNat (n : Nat) : Single :=
  ofRatio false (n * unitsOne) 1

def one : Single := ofNat 1

/-- Numeric equality: the two zeros are equal, and a NaN equals nothing. -/
def eq (x y : Single) : Bool :=
  !x.isNaN && !y.isNaN && x.units == y.units

def le (x y : Single) : Bool :=
  !x.isNaN && !y.isNaN && x.units ≤ y.units

def lt (x y : Single) : Bool :=
  !x.isNaN && !y.isNaN && x.units < y.units

def neg (x : Single) : Single :=
  { x with negative := !x.negative }

def abs (x : Single) : Single :=
  { x with negative := false }

def sub (x y : Single) : Single :=
  if x.isNaN || y.isNaN then nan
  else if x.isFinite && y.isFinite then
    if x.units = 0 && y.units = 0 then ⟨x.negative && !y.negative, 0, 0⟩
    else ofUnits (x.units - y.units)
  else if x.isFinite then y.neg
  else if y.isFinite then x
  else if x.negative = y.negative then nan else x

def div (x y : Single) : Single :=
  let negative := x.negative != y.negative
  if x.isNaN || y.isNaN then nan
  else if x.isFinite && y.isFinite then
    if y.magnitude = 0 then
      if x.magnitude = 0 then nan else infinity negative
    else ofRatio negative (x.magnitude * unitsOne) y.magnitude
  else if x.isFinite then ⟨negative, 0, 0⟩
  else if y.isFinite then infinity negative
  else nan

/-- The whole number nearest to a finite number; halves go away from zero. -/
def nearestInt (x : Single) : Int :=
  let n := (2 * x.magnitude + unitsOne) / (2 * unitsOne)
  if x.negative then -(n : Int) else n

def round (x : Single) : Single :=
  if x.isFinite then
    ofRatio x.negative (x.nearestInt.natAbs * unitsOne) 1
  else x

def isWhole (x : Single) : Bool :=
  x.isFinite && x.magnitude % unitsOne == 0

/-- A number without its fractional part. -/
def toInt (x : Single) : Int :=
  x.units.tdiv unitsOne

end Single

end LayoutCompose
