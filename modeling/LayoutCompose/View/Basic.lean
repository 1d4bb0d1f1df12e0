import LayoutCompose.Value.Span
import LayoutCompose.View.Frame
import LayoutCompose.View.Kind

/-!
Views: controls, which show something, and groups, which hold other views.
-/

namespace LayoutCompose

structure TextProps where
  text : Caption := .empty
  color : Option Color := none
  size : Option Dimension := none
  style : TextStyle := {}
  font : Option Font := none
  align : Option Horizontal := none
  maxLines : Option Nat := none
  deriving DecidableEq, Repr, Inhabited

/-- The values that a slider runs over. A step of zero means all values between the bounds. -/
structure Track where
  lower : Single := Single.zero
  upper : Single := Single.one
  step : Single := Single.zero
  deriving DecidableEq, Repr

inductive ToggleForm
  | checkBox
  | radioButton
  | switch
  deriving DecidableEq, Repr

inductive Control
  | text (props : TextProps)
  | button (label : TextProps)
  | field (text : TextProps) (hint : Option Caption) (input : InputType) (singleLine : Bool)
  | image (source : Reference) (scaling : Scaling)
  | toggle (form : ToggleForm) (label : Caption) (checked : Bool)
  | rangeSlider (track : Track) (values : Option Span)
  | slider (track : Track) (value : Option Single)
  | plain
  | inclusion (layout : Reference)
  deriving DecidableEq, Repr

def ToggleForm.kind : ToggleForm → Kind
  | checkBox => .checkBox
  | radioButton => .radioButton
  | switch => .switch

def Control.kind : Control → Kind
  | text _ => .text
  | button _ => .button
  | field .. => .field
  | image .. => .image
  | toggle form .. => form.kind
  | rangeSlider .. => .rangeSlider
  | slider .. => .slider
  | plain => .plain
  | inclusion _ => .inclusion

inductive Group
  | row (gravity : Gravity)
  | column (gravity : Gravity)
  | box (gravity : Gravity)
  | linear (gravity : Gravity) (orientation : Orientation)
  | radioGroup (gravity : Gravity) (orientation : Orientation)
  | card (corner : Option Dimension) (color : Option Color) (elevation : Option Dimension)
  | scroll (horizontal : Bool)
  | constraint
  deriving DecidableEq, Repr

def Group.kind : Group → Kind
  | row _ => .row
  | column _ => .column
  | box _ => .box
  | linear .. => .linear
  | radioGroup .. => .radioGroup
  | card .. => .card
  | scroll _ => .scroll
  | constraint => .constraint

inductive View
  | control (frame : Frame) (control : Control)
  | group (frame : Frame) (group : Group) (children : List View)

namespace View

def kind : View → Kind
  | control _ c => c.kind
  | group _ g _ => g.kind

def frame : View → Frame
  | control f _ => f
  | group f _ _ => f

def id (v : View) : Option String :=
  v.frame.id

def children : View → List View
  | control _ _ => []
  | group _ _ vs => vs

/-- The same group with other children. A control has none. -/
def withChildren : View → List View → View
  | control f c, _ => control f c
  | group f g _, vs => group f g vs

def isGone (v : View) : Bool :=
  v.frame.visibility == .gone

/-- The view reached by a path of child indices. -/
def descend? : View → List Nat → Option View
  | v, [] => some v
  | v, i :: path => (v.children[i]?).bind fun child => child.descend? path

end View

structure Layout where
  roots : List View

namespace Layout

def root? (layout : Layout) : Option View :=
  match layout.roots with
  | [v] => some v
  | _ => none

/-- The view reached by a path of indices, the first of which selects a root. -/
def descend? (layout : Layout) : List Nat → Option View
  | [] => none
  | i :: path => (layout.roots[i]?).bind fun v => v.descend? path

end Layout

end LayoutCompose
