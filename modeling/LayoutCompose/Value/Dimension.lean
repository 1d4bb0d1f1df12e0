import LayoutCompose.Value.Reference
import LayoutCompose.Value.Scalar

/-!
Lengths on the screen, and the extent of a view along one axis.
-/

namespace LayoutCompose

inductive Dimension
  | dp (value : Single)
  | sp (value : Single)
  | px (value : Single)
  | resource (reference : Reference)
  deriving DecidableEq, Repr

namespace Dimension

def value? : Dimension → Option Single
  | dp x | sp x | px x => some x
  | resource _ => none

def isZero (d : Dimension) : Bool :=
  d.value?.any fun x => x.eq Single.zero

def isNegative (d : Dimension) : Bool :=
  d.value?.any fun x => x.lt Single.zero

def ofUnit? (x : Single) (unit : List Char) : Option Dimension :=
  match String.ofList unit with
  | "dp" | "dip" => some (dp x)
  | "sp" => some (sp x)
  | "px" => some (px x)
  | _ => none

def ofReference? (s : String) : Option Dimension :=
  (Reference.ofKinds? ["dimen"] s).map resource

/-- A number and its unit, which begins at the first letter. -/
def ofNumeral? (cs : List Char) : Option Dimension :=
  match Single.read (String.ofList (cs.takeWhile fun c => !c.isAlpha)) with
  | .ok x => ofUnit? x (cs.dropWhile fun c => !c.isAlpha)
  | .error _ => none

def read? (s : String) : Option Dimension :=
  let cs := Text.trim s.toList
  if cs.head? = some '@' then ofReference? (String.ofList cs) else ofNumeral? cs

def read (s : String) : Except Expectation Dimension :=
  match read? s with
  | some d => .ok d
  | none => .error .dimension

/-- Equality up to the sign of zero. -/
def eq : Dimension → Dimension → Bool
  | dp x, dp y | sp x, sp y | px x, px y => x.eq y
  | resource r, resource s => r == s
  | _, _ => false

end Dimension

/-- How far a view reaches along one axis. A fraction is one of the parent. -/
inductive Extent
  | wrap
  | fill
  | fraction (part : Single)
  | fixed (length : Dimension)
  deriving DecidableEq, Repr

namespace Extent

/-- A length of zero: the parent decides. -/
def isZero : Extent → Bool
  | fixed d => d.isZero
  | _ => false

/-- Reads the number of a percentage between 0 and 100. -/
def ofPercentage? (cs : List Char) : Option Extent :=
  match Single.read (String.ofList cs) with
  | .ok x =>
    let hundred := Single.ofNat 100
    if Single.zero.le x && x.le hundred then some (fraction (x.div hundred)) else none
  | .error _ => none

def read? (s : String) : Option Extent :=
  let cs := Text.trim s.toList
  match String.ofList cs with
  | "match_parent" | "fill_parent" => some fill
  | "wrap_content" => some wrap
  | t =>
    if cs.getLast? = some '%' then ofPercentage? cs.dropLast
    else (Dimension.read? t).map fixed

def read (s : String) : Except Expectation Extent :=
  match read? s with
  | some e => .ok e
  | none => .error .extent

end Extent

end LayoutCompose
