import LayoutCompose.Value.Scalar

/-!
Ranges of numbers, written `a..b` or `[a, b]`.
-/

namespace LayoutCompose

structure Span where
  lower : Single
  upper : Single
  deriving DecidableEq, Repr

namespace Span

def contains (r : Span) (x : Single) : Bool :=
  r.lower.le x && x.le r.upper

/-- The content of square brackets around a whole text. -/
def unbracket? : List Char → Option (List Char)
  | '[' :: cs => if cs.getLast? = some ']' then some cs.dropLast else none
  | _ => none

def bounds? (s : String) : Option (List Char × List Char) :=
  let cs := Text.trim s.toList
  match unbracket? cs with
  | some inner => Text.cut? [','] inner
  | none => Text.cut? ['.', '.'] cs

/-- Reads a range. The lower bound may not exceed the upper one. -/
def read (s : String) : Except Expectation Span :=
  match bounds? s with
  | none => .error .span
  | some (a, b) =>
    match Single.read (String.ofList a), Single.read (String.ofList b) with
    | .ok x, .ok y => if y.lt x then .error .orderedSpan else .ok ⟨x, y⟩
    | _, _ => .error .span

end Span

end LayoutCompose
