import LayoutCompose.Document.Cause
import LayoutCompose.View.Basic

/-!
The attributes of an element under their bare names, and the views made of them.

Attributes are read in a fixed order, whatever their order in the document, and the first one
with a bad value is at fault.
-/

namespace LayoutCompose.Document

/-- The attributes of an element: bare names with decoded values. -/
structure Attributes where
  tag : String
  entries : List (String × String) := []
  deriving DecidableEq, Repr

namespace Attributes

def contains (attrs : Attributes) (name : String) : Bool :=
  attrs.entries.any fun (n, _) => n == name

def push (attrs : Attributes) (name value : String) : Attributes :=
  { attrs with entries := attrs.entries ++ [(name, value)] }

def get {α : Type} (attrs : Attributes) (name : String) (read : String → Except Expectation α) :
    Except Cause (Option α) :=
  match attrs.entries.lookup name with
  | none => .ok none
  | some raw =>
    match read raw with
    | .ok a => .ok (some a)
    | .error e => .error (.invalidValue attrs.tag name raw e)

def getD {α : Type} (attrs : Attributes) (name : String) (read : String → Except Expectation α)
    (default : α) : Except Cause α := do
  return (← attrs.get name read).getD default

/-- The value of the first of two attributes that is given. -/
def either {α : Type} (attrs : Attributes) (name other : String)
    (read : String → Except Expectation α) : Except Cause (Option α) := do
  match ← attrs.get name read with
  | some a => return some a
  | none => attrs.get other read

/-- A value that has to be there, or else the attribute `name` is missing. -/
def require {α : Type} (attrs : Attributes) (name : String) (value : Option α) :
    Except Cause α :=
  match value with
  | some a => .ok a
  | none => .error (.missingAttribute attrs.tag name)

/-- The ties to other views, in the order of the table of constraint attributes. -/
def constraintsFrom (attrs : Attributes) :
    List (String × Anchor × Anchor) → Except Cause (List Constraint)
  | [] => .ok []
  | (name, anchor, targetAnchor) :: table => do
    let target ← attrs.get name Target.read
    let rest ← attrs.constraintsFrom table
    match target with
    | some target => return ⟨anchor, target, targetAnchor⟩ :: rest
    | none => return rest

/-- The room at the sides of a view, from the attributes whose names begin with `base`. A side
wins over an axis and an axis over all sides; the reading direction wins over left and right. -/
def edges (attrs : Attributes) (base : String) : Except Cause Edges := do
  let all ← attrs.get base Dimension.read
  let horizontal ← attrs.get (base ++ "Horizontal") Dimension.read
  let vertical ← attrs.get (base ++ "Vertical") Dimension.read
  let leading ← attrs.either (base ++ "Start") (base ++ "Left") Dimension.read
  let trailing ← attrs.either (base ++ "End") (base ++ "Right") Dimension.read
  let top ← attrs.get (base ++ "Top") Dimension.read
  let bottom ← attrs.get (base ++ "Bottom") Dimension.read
  return {
    leading := leading <|> horizontal <|> all
    top := top <|> vertical <|> all
    trailing := trailing <|> horizontal <|> all
    bottom := bottom <|> vertical <|> all }

def frame (attrs : Attributes) : Except Cause Frame := do
  let constraints ← attrs.constraintsFrom Constraint.attributes
  let id ← attrs.get "id" readId
  let width ← attrs.getD "layout_width" Extent.read .wrap
  let height ← attrs.getD "layout_height" Extent.read .wrap
  let padding ← attrs.edges "padding"
  let margin ← attrs.edges "layout_margin"
  let background ← attrs.get "background" Drawable.read
  let visibility ← attrs.getD "visibility" Visibility.read .visible
  let enabled ← attrs.getD "enabled" readBool true
  let alpha ← attrs.getD "alpha" Single.read Single.one
  let weight ← attrs.getD "layout_weight" Single.readNonNegative Single.zero
  let gravity ← attrs.getD "layout_gravity" Gravity.read {}
  let description ← attrs.get "contentDescription" Caption.read
  return {
    id, width, height, padding, margin, background, visibility, enabled, alpha, weight, gravity,
    description, constraints }

/-- The frame of an inclusion, which has only a name and a visibility. -/
def inclusionFrame (attrs : Attributes) : Except Cause Frame := do
  let id ← attrs.get "id" readId
  let visibility ← attrs.getD "visibility" Visibility.read .visible
  return { id, visibility }

def frameOf (attrs : Attributes) (kind : Kind) : Except Cause Frame :=
  if kind = .inclusion then attrs.inclusionFrame else attrs.frame

/-- Whether a text is limited to a single line. Where `fold` is not set, this is not asked. -/
def isFolded (attrs : Attributes) (fold : Bool) : Except Cause Bool :=
  if fold then attrs.getD "singleLine" readBool false else .ok false

/-- The look of a text. Where `fold` is set, a single line is a limit of one line. -/
def textProps (attrs : Attributes) (fold : Bool) : Except Cause TextProps := do
  let maxLines ← attrs.get "maxLines" readCount
  let singleLine ← attrs.isFolded fold
  let text ← attrs.getD "text" Caption.read .empty
  let color ← attrs.get "textColor" Color.read
  let size ← attrs.get "textSize" Dimension.read
  let style ← attrs.getD "textStyle" TextStyle.read {}
  let font ← attrs.get "fontFamily" Font.read
  let gravity ← attrs.get "gravity" Gravity.read
  return {
    text, color, size, style, font
    align := gravity.bind Gravity.horizontal
    maxLines := if singleLine then maxLines <|> some 1 else maxLines }

def track (attrs : Attributes) : Except Cause Track := do
  let lower ← attrs.either "valueFrom" "min" Single.read
  let upper ← attrs.either "valueTo" "max" Single.read
  let step ← attrs.getD "stepSize" Single.readNonNegative Single.zero
  return { lower := lower.getD Single.zero, upper := upper.getD Single.one, step }

def toggle (attrs : Attributes) (form : ToggleForm) : Except Cause Control := do
  let label ← attrs.getD "text" Caption.read .empty
  let checked ← attrs.getD "checked" readBool false
  return .toggle form label checked

def gravity (attrs : Attributes) : Except Cause Gravity :=
  attrs.getD "gravity" Gravity.read {}

def view (attrs : Attributes) (kind : Kind) : Except Cause View := do
  let frame ← attrs.frameOf kind
  match kind with
  | .text => return .control frame (.text (← attrs.textProps true))
  | .button => return .control frame (.button (← attrs.textProps true))
  | .field =>
    let text ← attrs.textProps false
    let hint ← attrs.get "hint" Caption.read
    let input ← attrs.getD "inputType" InputType.read {}
    let singleLine ← attrs.getD "singleLine" readBool false
    return .control frame (.field text hint input singleLine)
  | .image =>
    let source ← attrs.require "src" (← attrs.either "src" "srcCompat" Reference.readImage)
    let scaling ← attrs.getD "scaleType" Scaling.read .fitCenter
    return .control frame (.image source scaling)
  | .checkBox => return .control frame (← attrs.toggle .checkBox)
  | .radioButton => return .control frame (← attrs.toggle .radioButton)
  | .switch => return .control frame (← attrs.toggle .switch)
  | .rangeSlider =>
    let track ← attrs.track
    let values ← attrs.get "values" Span.read
    return .control frame (.rangeSlider track values)
  | .slider =>
    let track ← attrs.track
    let value ← attrs.either "value" "progress" Single.read
    return .control frame (.slider track value)
  | .plain => return .control frame .plain
  | .inclusion =>
    let layout ← attrs.require "layout" (← attrs.get "layout" Reference.readLayout)
    return .control frame (.inclusion layout)
  | .row => return .group frame (.row (← attrs.gravity)) []
  | .column => return .group frame (.column (← attrs.gravity)) []
  | .box => return .group frame (.box (← attrs.gravity)) []
  | .linear =>
    let gravity ← attrs.gravity
    let orientation ← attrs.getD "orientation" Orientation.read .horizontal
    return .group frame (.linear gravity orientation) []
  | .radioGroup =>
    let gravity ← attrs.gravity
    let orientation ← attrs.getD "orientation" Orientation.read .vertical
    return .group frame (.radioGroup gravity orientation) []
  | .card =>
    let corner ← attrs.get "cardCornerRadius" Dimension.read
    let color ← attrs.get "cardBackgroundColor" Color.read
    let elevation ← attrs.get "cardElevation" Dimension.read
    return .group frame (.card corner color elevation) []
  | .scroll => return .group frame (.scroll (attrs.tag == "HorizontalScrollView")) []
  | .constraint => return .group frame .constraint []

end Attributes

end LayoutCompose.Document
