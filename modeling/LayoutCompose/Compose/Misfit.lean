import LayoutCompose.Kotlin.Literal
import LayoutCompose.View.Basic

/-!
Why a view cannot be written as code: each of its attributes has a value, but together, or in
this place, they make no sense.
-/

namespace LayoutCompose.Compose

inductive Misfit
  | duplicateId (id : String)
  | parentName
  | takenName (name : String)
  | unweighable
  | negativeMargin
  | alphaOutside (alpha : Single)
  | negativePadding
  | noLines
  | childCount (count : Nat)
  | boundsReversed (track : Track)
  | unevenStep (track : Track)
  | valuesOutside (values : Span) (track : Track)
  | valueOutside (value : Single) (track : Track)
  | selfTie (tie : Constraint)
  | goneTie (tie : Constraint) (id : String)
  | unknownTie (tie : Constraint) (id : String)
  deriving DecidableEq, Repr

namespace Misfit

def attributeName : Misfit → String
  | duplicateId _ | parentName | takenName _ => "id"
  | unweighable => "layout_weight"
  | negativeMargin => "layout_margin"
  | alphaOutside _ => "alpha"
  | negativePadding => "padding"
  | noLines => "maxLines"
  | childCount _ => "children"
  | boundsReversed _ => "min"
  | unevenStep _ => "stepSize"
  | valuesOutside .. => "values"
  | valueOutside .. => "value"
  | selfTie tie | goneTie tie _ | unknownTie tie _ => tie.attributeName

def reason : Misfit → String
  | duplicateId id => "`" ++ id ++ "` is used by another child of the same ConstraintLayout"
  | parentName => "clashes with the ConstraintLayout `parent` reference"
  | takenName name => "reference name `" ++ name ++ "` is already used by a sibling"
  | unweighable => "only applies to children of a Row or Column"
  | negativeMargin | negativePadding => "must not be negative"
  | alphaOutside alpha => "must be between 0 and 1 (got " ++ Kotlin.numeral alpha ++ ")"
  | noLines => "must be at least 1"
  | childCount count => "must hold exactly one child view (found " ++ toString count ++ ")"
  | boundsReversed track =>
    "is greater than `max` (" ++ Kotlin.numeral track.lower ++ " > " ++
      Kotlin.numeral track.upper ++ ")"
  | unevenStep track =>
    Kotlin.numeral track.step ++ " does not divide the range " ++
      Kotlin.floatSpan track.lower track.upper ++ " evenly"
  | valuesOutside values track =>
    Kotlin.floatSpan values.lower values.upper ++ " lies outside the value range " ++
      Kotlin.floatSpan track.lower track.upper
  | valueOutside value track =>
    Kotlin.floatLiteral value ++ " lies outside the value range " ++
      Kotlin.floatSpan track.lower track.upper
  | selfTie _ => "cannot refer to the view itself"
  | goneTie _ id => "refers to `" ++ id ++ "`, which has visibility gone"
  | unknownTie _ id => "refers to unknown sibling id `" ++ id ++ "`"

end Misfit

/-- A misfit and the view that has it. -/
structure Error where
  kind : Kind
  id : Option String
  misfit : Misfit
  deriving DecidableEq, Repr

def Error.message (e : Error) : String :=
  "cannot compose " ++ e.kind.name ++
    (match e.id with
      | some id => " (id `" ++ id ++ "`)"
      | none => "") ++
    ": `" ++ e.misfit.attributeName ++ "` " ++ e.misfit.reason

end LayoutCompose.Compose
