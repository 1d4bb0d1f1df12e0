import LayoutCompose.Compose.Control
import LayoutCompose.Kotlin.Page

/-!
Views and layouts as code. A control is one line, and a group is a block around its children.
-/

namespace LayoutCompose

namespace Compose

open Kotlin (Call Chain Code Page)

def rowCall (modifiers : Chain) (g : Gravity) : Call :=
  let arrangement :=
    match g.horizontal with
    | some .center => some "Arrangement.Center"
    | some .trailing => some "Arrangement.End"
    | _ => none
  ({ name := "Row" } : Call)
    |>.modified modifiers
    |>.argOf "horizontalArrangement" arrangement
    |>.argOf "verticalAlignment" (rowAlignment? g.vertical)

def columnCall (modifiers : Chain) (g : Gravity) : Call :=
  let arrangement :=
    match g.vertical with
    | some .center => some "Arrangement.Center"
    | some .bottom => some "Arrangement.Bottom"
    | _ => none
  ({ name := "Column" } : Call)
    |>.modified modifiers
    |>.argOf "verticalArrangement" arrangement
    |>.argOf "horizontalAlignment" (columnAlignment? g.horizontal)

def linearCall (modifiers : Chain) (g : Gravity) : Orientation → Call
  | .horizontal => rowCall modifiers g
  | .vertical => columnCall modifiers g

def linearScope : Orientation → Scope
  | .horizontal => .row
  | .vertical => .column

def cardCall (modifiers : Chain) (corner : Option Dimension) (color : Option Color)
    (elevation : Option Dimension) : Call :=
  ({ name := "Card" } : Call)
    |>.modified modifiers
    |>.argOf "shape" (corner.map fun r => "RoundedCornerShape(" ++ r.dpExpression ++ ")")
    |>.argOf "backgroundColor" (color.map Color.expression)
    |>.argOf "elevation" (elevation.map Dimension.dpExpression)

/-- What a group puts around its children: the header, the lines in front of them, and the
scope of each. -/
structure Enclosure where
  header : String
  preamble : List String := []
  scope : Nat → Scope

def scrollOrientation (horizontal : Bool) : Orientation :=
  if horizontal then .horizontal else .vertical

def scrollModifier (horizontal : Bool) : String :=
  if horizontal then "horizontalScroll(rememberScrollState())"
  else "verticalScroll(rememberScrollState())"

def enclosure (scope : Scope) (f : Frame) (g : Group) (children : List View) :
    Noted Error Enclosure := do
  match g with
  | .row gravity =>
    let modifiers ← chain scope .row f []
    return { header := (rowCall modifiers gravity).header, scope := fun _ => .row }
  | .column gravity =>
    let modifiers ← chain scope .column f []
    return { header := (columnCall modifiers gravity).header, scope := fun _ => .column }
  | .box gravity =>
    let modifiers ← chain scope .box f []
    let call := ({ name := "Box" } : Call)
      |>.modified modifiers
      |>.argOf "contentAlignment" (boxAlignment? gravity)
    return { header := call.header, scope := fun _ => .box }
  | .linear gravity orientation =>
    let modifiers ← chain scope .linear f []
    return {
      header := (linearCall modifiers gravity orientation).header
      scope := fun _ => linearScope orientation }
  | .radioGroup gravity orientation =>
    let modifiers ← chain scope .radioGroup f ["selectableGroup()"]
    return {
      header := (linearCall modifiers gravity orientation).header
      scope := fun _ => linearScope orientation }
  | .card corner color elevation =>
    let modifiers ← chain scope .card f []
    return {
      header := (cardCall modifiers corner color elevation).header
      scope := fun _ => .plain }
  | .scroll horizontal =>
    if children.length ≠ 1 then
      .error ⟨.scroll, f.id, .childCount children.length⟩
    else
      let modifiers ← chain scope .scroll f [scrollModifier horizontal]
      let orientation := scrollOrientation horizontal
      return {
        header := (linearCall modifiers {} orientation).header
        scope := fun _ => linearScope orientation }
  | .constraint =>
    let modifiers ← chain scope .constraint f []
    let refs ← References.ofChildren children
    return {
      header := (({ name := "ConstraintLayout" } : Call).modified modifiers).header
      preamble := refs.declared.map fun name => "val " ++ name ++ " = createRef()"
      scope := fun i => .constraint refs.ids (refs.nameAt i) }

mutual

/-- The code of a view. A view that is gone has none. -/
def viewCode (scope : Scope) : View → Noted Error (List Code)
  | .control f c =>
    if f.visibility = .gone then do
      .note (.skipped c.kind)
      return []
    else do return [.line (← controlLine scope f c)]
  | .group f g children =>
    if f.visibility = .gone then do
      .note (.skipped g.kind)
      return []
    else do
      let around ← enclosure scope f g children
      let body ← viewsCode around.scope 0 children
      return [.block around.header (around.preamble.map Code.line ++ body)]

/-- The code of views in order; the one at index `i` is written into the scope for `i`. -/
def viewsCode (scope : Nat → Scope) (i : Nat) : List View → Noted Error (List Code)
  | [] => pure []
  | v :: vs => do
    let code ← viewCode (scope i) v
    let rest ← viewsCode scope (i + 1) vs
    return code ++ rest

end

end Compose

/-- The code of a single view, as if it stood alone. Lines begin at the given depth. -/
def View.compose (v : View) (depth : Nat) : Noted Compose.Error String := do
  let code ← Compose.viewCode .top v
  return (Kotlin.Code.writeAll { depth } code).text

def Layout.compose (layout : Layout) (depth : Nat) : Noted Compose.Error String := do
  let code ← Compose.viewsCode (fun _ => .top) 0 layout.roots
  return (Kotlin.Code.writeAll { depth } code).text

end LayoutCompose
