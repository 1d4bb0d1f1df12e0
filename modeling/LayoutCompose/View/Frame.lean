import LayoutCompose.Value.Caption
import LayoutCompose.Value.Choice
import LayoutCompose.Value.Color
import LayoutCompose.Value.Dimension
import LayoutCompose.Value.Flags

/-!
What views of every kind have in common: a name, a size, room around them, their look, and
their place in the parent.
-/

namespace LayoutCompose

/-- The room at the four sides of a view; a side that is not given is `none`. -/
structure Edges where
  leading : Option Dimension := none
  top : Option Dimension := none
  trailing : Option Dimension := none
  bottom : Option Dimension := none
  deriving DecidableEq, Repr, Inhabited

namespace Edges

def uniform (d : Dimension) : Edges :=
  ⟨some d, some d, some d, some d⟩

def sides (e : Edges) : List (Option Dimension) :=
  [e.leading, e.top, e.trailing, e.bottom]

def isEmpty (e : Edges) : Bool :=
  e.sides.all fun side => side.all Dimension.isZero

def hasNegative (e : Edges) : Bool :=
  e.sides.any fun side => side.any Dimension.isNegative

end Edges

/-- A line of a view that can be tied to a line of another. -/
inductive Anchor
  | top
  | bottom
  | leading
  | trailing
  | left
  | right
  | baseline
  deriving DecidableEq, Repr

/-- What a view is tied to: the parent, or a sibling by its identifier. -/
inductive Target
  | parent
  | sibling (id : String)
  deriving DecidableEq, Repr

def Target.read (s : String) : Except Expectation Target :=
  if trimmed s = "parent" then .ok .parent
  else
    match readId s with
    | .ok id => .ok (.sibling id)
    | .error _ => .error .target

/-- A tie between an anchor of a view and an anchor of another. -/
structure Constraint where
  anchor : Anchor
  target : Target
  targetAnchor : Anchor
  deriving DecidableEq, Repr

/-- The attributes that tie anchors, in the order in which ties are listed. -/
def Constraint.attributes : List (String × Anchor × Anchor) :=
  [("layout_constraintTop_toTopOf", .top, .top),
    ("layout_constraintTop_toBottomOf", .top, .bottom),
    ("layout_constraintBottom_toTopOf", .bottom, .top),
    ("layout_constraintBottom_toBottomOf", .bottom, .bottom),
    ("layout_constraintStart_toStartOf", .leading, .leading),
    ("layout_constraintStart_toEndOf", .leading, .trailing),
    ("layout_constraintEnd_toStartOf", .trailing, .leading),
    ("layout_constraintEnd_toEndOf", .trailing, .trailing),
    ("layout_constraintLeft_toLeftOf", .left, .left),
    ("layout_constraintLeft_toRightOf", .left, .right),
    ("layout_constraintRight_toLeftOf", .right, .left),
    ("layout_constraintRight_toRightOf", .right, .right),
    ("layout_constraintBaseline_toBaselineOf", .baseline, .baseline)]

def Constraint.attributeOf (anchor targetAnchor : Anchor) : String :=
  match attributes.find? fun (_, a, b) => a == anchor && b == targetAnchor with
  | some (name, _) => name
  | none => "layout_constraint"

def Constraint.attributeName (c : Constraint) : String :=
  attributeOf c.anchor c.targetAnchor

structure Frame where
  id : Option String := none
  width : Extent := .wrap
  height : Extent := .wrap
  padding : Edges := {}
  margin : Edges := {}
  background : Option Drawable := none
  visibility : Visibility := .visible
  enabled : Bool := true
  alpha : Single := Single.one
  weight : Single := Single.zero
  gravity : Gravity := {}
  description : Option Caption := none
  constraints : List Constraint := []
  deriving DecidableEq, Repr

end LayoutCompose
