import LayoutCompose.Compose.References
import LayoutCompose.Kotlin.Call
import LayoutCompose.Kotlin.Expression

/-!
The modifiers of a view: its ties, its place in the parent, margin, size, look and padding.

Modifiers apply from left to right, so their order matters: the margin lies outside and the
padding inside the background.
-/

namespace LayoutCompose.Compose

open Kotlin (Chain)

/-- What a view is written into. In a constraint group, a view has the names for the
identifiers of its siblings, and possibly a reference of its own. -/
inductive Scope
  | top
  | row
  | column
  | box
  | plain
  | constraint (ids : List (String × Option String)) (own : Option String)
  deriving DecidableEq, Repr

def anchorName : Anchor → String
  | .top => "top"
  | .bottom => "bottom"
  | .leading => "start"
  | .trailing => "end"
  | .left => "absoluteLeft"
  | .right => "absoluteRight"
  | .baseline => "baseline"

def tieTarget (ids : List (String × Option String)) (own : Option String) (tie : Constraint) :
    Except Misfit String :=
  match tie.target with
  | .parent => .ok "parent"
  | .sibling id =>
    if own = some id then .error (.selfTie tie)
    else
      match ids.lookup id with
      | some (some name) => .ok name
      | some none => .error (.goneTie tie id)
      | none => .error (.unknownTie tie id)

def tieText (ids : List (String × Option String)) (own : Option String) (tie : Constraint) :
    Except Misfit String := do
  let target ← tieTarget ids own tie
  return anchorName tie.anchor ++ ".linkTo(" ++ target ++ "." ++ anchorName tie.targetAnchor ++
    ")"

def tieTexts (ids : List (String × Option String)) (own : Option String) :
    List Constraint → Except Misfit (List String)
  | [] => .ok []
  | tie :: ties => do
    let text ← tieText ids own tie
    return text :: (← tieTexts ids own ties)

/-- The ties of a view that has a reference. A length of zero means to fill the room between
the ties. -/
def constrainCall (ids : List (String × Option String)) (name : String) (f : Frame) :
    Except Misfit String := do
  let ties ← tieTexts ids f.id f.constraints
  let links := ties ++
    (if f.width.isZero then ["width = Dimension.fillToConstraints"] else []) ++
    (if f.height.isZero then ["height = Dimension.fillToConstraints"] else [])
  return "constrainAs(" ++ name ++ ") " ++
    (if links.isEmpty then "\x7b\x7d" else "\x7b " ++ "; ".intercalate links ++ " \x7d")

/-- Equality of sides up to the sign of zero. -/
def sameSide : Option Dimension → Option Dimension → Bool
  | some d, some e => d.eq e
  | none, none => true
  | _, _ => false

def sideArguments (sides : List (String × Option Dimension)) : List String :=
  sides.filterMap fun (name, side) => side.map fun d => name ++ " = " ++ d.dpExpression

/-- The padding at the sides that take room, in its shortest form. -/
def paddingCall? (e : Edges) : Option String :=
  let present (side : Option Dimension) := side.filter fun d => !d.isZero
  let leading := present e.leading
  let top := present e.top
  let trailing := present e.trailing
  let bottom := present e.bottom
  if e.isEmpty then none
  else if sameSide leading top && sameSide top trailing && sameSide trailing bottom then
    leading.map fun d => "padding(" ++ d.dpExpression ++ ")"
  else
    let sides :=
      if sameSide leading trailing && sameSide top bottom then
        [("horizontal", leading), ("vertical", top)]
      else [("start", leading), ("top", top), ("end", trailing), ("bottom", bottom)]
    some ("padding(" ++ ", ".intercalate (sideArguments sides) ++ ")")

def widthCall? : Extent → Option String
  | .wrap => none
  | .fill => some "fillMaxWidth()"
  | .fraction part => some ("fillMaxWidth(" ++ Kotlin.floatLiteral part ++ ")")
  | .fixed d => some ("width(" ++ d.dpExpression ++ ")")

def heightCall? : Extent → Option String
  | .wrap => none
  | .fill => some "fillMaxHeight()"
  | .fraction part => some ("fillMaxHeight(" ++ Kotlin.floatLiteral part ++ ")")
  | .fixed d => some ("height(" ++ d.dpExpression ++ ")")

def sizeCalls (width height : Extent) : List String :=
  let both := (widthCall? width).toList ++ (heightCall? height).toList
  match width, height with
  | .fill, .fill => ["fillMaxSize()"]
  | .fixed w, .fixed h => if w.eq h then ["size(" ++ w.dpExpression ++ ")"] else both
  | _, _ => both

/-- The alignment in a box, where the top of the leading side is understood. -/
def boxAlignment? (g : Gravity) : Option String :=
  match g.vertical.getD .top, g.horizontal.getD .leading with
  | .top, .leading => none
  | .top, .center => some "Alignment.TopCenter"
  | .top, .trailing => some "Alignment.TopEnd"
  | .center, .leading => some "Alignment.CenterStart"
  | .center, .center => some "Alignment.Center"
  | .center, .trailing => some "Alignment.CenterEnd"
  | .bottom, .leading => some "Alignment.BottomStart"
  | .bottom, .center => some "Alignment.BottomCenter"
  | .bottom, .trailing => some "Alignment.BottomEnd"

def rowAlignment? : Option Vertical → Option String
  | some .center => some "Alignment.CenterVertically"
  | some .bottom => some "Alignment.Bottom"
  | _ => none

def columnAlignment? : Option Horizontal → Option String
  | some .center => some "Alignment.CenterHorizontally"
  | some .trailing => some "Alignment.End"
  | _ => none

def childAlignment? (scope : Scope) (g : Gravity) : Option String :=
  match scope with
  | .row => rowAlignment? g.vertical
  | .column => columnAlignment? g.horizontal
  | .box => boxAlignment? g
  | .top | .plain | .constraint .. => none

/-- The call that ties a view, if it has a reference. Ties outside a constraint group are left
out with a note. -/
def constrainCalls (scope : Scope) (kind : Kind) (f : Frame) : Noted Misfit (List String) :=
  match scope with
  | .constraint ids (some name) => do
    let call ← Noted.of (constrainCall ids name f)
    return [call]
  | .constraint _ none => pure []
  | _ =>
    if f.constraints.isEmpty then pure []
    else do
      .note (.ignoredConstraints kind)
      return []

/-- The share of the remaining room, for which there has to be a row or a column. -/
def weightCalls (scope : Scope) (f : Frame) : Except Misfit (List String) :=
  if Single.zero.lt f.weight then
    match scope with
    | .row | .column => .ok ["weight(" ++ Kotlin.floatLiteral f.weight ++ ")"]
    | _ => .error .unweighable
  else .ok []

/-- Whether an axis of zero length is left to the parent. -/
def isStretched (scope : Scope) (f : Frame) : Bool × Bool :=
  match scope with
  | .constraint _ (some _) => (true, true)
  | .row => (Single.zero.lt f.weight, false)
  | .column => (false, Single.zero.lt f.weight)
  | _ => (false, false)

def frameSizeCalls (scope : Scope) (f : Frame) : List String :=
  let stretched := isStretched scope f
  sizeCalls (if stretched.1 && f.width.isZero then .wrap else f.width)
    (if stretched.2 && f.height.isZero then .wrap else f.height)

def marginCalls (f : Frame) : Except Misfit (List String) :=
  if f.margin.hasNegative then .error .negativeMargin else .ok (paddingCall? f.margin).toList

def paddingCalls (f : Frame) : Except Misfit (List String) :=
  if f.padding.hasNegative then .error .negativePadding else .ok (paddingCall? f.padding).toList

/-- The opacity, where it is not full. An invisible view is fully transparent. -/
def alphaCalls (f : Frame) : Except Misfit (List String) :=
  if !(Single.zero.le f.alpha && f.alpha.le Single.one) then .error (.alphaOutside f.alpha)
  else if f.visibility = .invisible then .ok ["alpha(0f)"]
  else if f.alpha.lt Single.one then .ok ["alpha(" ++ Kotlin.floatLiteral f.alpha ++ ")"]
  else .ok []

def backgroundCalls (f : Frame) : List String :=
  match f.background with
  | some (.color c) => ["background(" ++ c.expression ++ ")"]
  | some (.resource r) =>
    ["paint(painterResource(id = " ++ r.constant ++
      "), contentScale = ContentScale.FillBounds)"]
  | none => []

/-- The description for those who do not see the view. An image takes it as an argument. -/
def semanticsCalls (kind : Kind) (f : Frame) : List String :=
  match f.description with
  | some d =>
    if kind = .image then []
    else ["semantics \x7b contentDescription = " ++ d.expression ++ " \x7d"]
  | none => []

def chain (scope : Scope) (kind : Kind) (f : Frame) (extras : List String) :
    Noted Error Chain :=
  Noted.mapError (fun misfit => ⟨kind, f.id, misfit⟩) do
    let ties ← constrainCalls scope kind f
    let weight ← Noted.of (weightCalls scope f)
    let align := (childAlignment? scope f.gravity).toList.map fun a => "align(" ++ a ++ ")"
    let margin ← Noted.of (marginCalls f)
    let alpha ← Noted.of (alphaCalls f)
    let padding ← Noted.of (paddingCalls f)
    return ⟨ties ++ weight ++ align ++ margin ++ frameSizeCalls scope f ++ alpha ++
      backgroundCalls f ++ padding ++ extras ++ semanticsCalls kind f⟩

end LayoutCompose.Compose
