import LayoutCompose.Compose.View

/-!
What is left of a view when the properties that ask for nothing are dropped.

A side that takes no room, and a place at the top of the leading side, can be asked for or left
open. The two are different views with the same code: the code of a view depends on the essence
of its properties alone, in whatever scope the view stands.
-/

namespace LayoutCompose

/-! ### The essence of a view -/

/-- Only the sides that take room. -/
def Edges.essential (e : Edges) : Edges where
  leading := e.leading.filter fun d => !d.isZero
  top := e.top.filter fun d => !d.isZero
  trailing := e.trailing.filter fun d => !d.isZero
  bottom := e.bottom.filter fun d => !d.isZero

def Horizontal.essential (place : Option Horizontal) : Option Horizontal :=
  place.filter fun h => h != .leading

def Vertical.essential (place : Option Vertical) : Option Vertical :=
  place.filter fun v => v != .top

def Gravity.essential (g : Gravity) : Gravity :=
  ⟨Horizontal.essential g.horizontal, Vertical.essential g.vertical⟩

def Frame.essential (f : Frame) : Frame :=
  { f with
    padding := f.padding.essential
    margin := f.margin.essential
    gravity := f.gravity.essential }

def TextProps.essential (props : TextProps) : TextProps :=
  { props with align := Horizontal.essential props.align }

def Control.essential : Control → Control
  | text props => text props.essential
  | button label => button label.essential
  | field props hint input singleLine => field props.essential hint input singleLine
  | c => c

def Group.essential : Group → Group
  | row gravity => row gravity.essential
  | column gravity => column gravity.essential
  | box gravity => box gravity.essential
  | linear gravity orientation => linear gravity.essential orientation
  | radioGroup gravity orientation => radioGroup gravity.essential orientation
  | g => g

/-- The essence of a view itself. Its children are left as they are. -/
def View.essential : View → View
  | control f c => control f.essential c.essential
  | group f g children => group f.essential g.essential children

@[simp] theorem Control.kind_essential (c : Control) : c.essential.kind = c.kind := by
  cases c <;> rfl

@[simp] theorem Group.kind_essential (g : Group) : g.essential.kind = g.kind := by
  cases g <;> rfl

namespace View

@[simp] theorem kind_essential (v : View) : v.essential.kind = v.kind := by
  cases v with
  | control f c => exact c.kind_essential
  | group f g children => exact g.kind_essential

@[simp] theorem id_essential (v : View) : v.essential.id = v.id := by
  cases v <;> rfl

@[simp] theorem isGone_essential (v : View) : v.essential.isGone = v.isGone := by
  cases v <;> rfl

@[simp] theorem constraints_essential (v : View) :
    v.essential.frame.constraints = v.frame.constraints := by
  cases v <;> rfl

@[simp] theorem essential_withChildren (v : View) (children : List View) :
    (v.withChildren children).essential = v.essential.withChildren children := by
  cases v <;> rfl

end View

/-! ### Sides -/

theorem Dimension.isNegative_of_isZero {d : Dimension} (h : d.isZero = true) :
    d.isNegative = false := by
  have hlt {x : Single} (hx : x.eq Single.zero = true) : x.lt Single.zero = false := by
    simp only [Single.eq, Bool.and_eq_true, beq_iff_eq] at hx
    simp [Single.lt, hx.2]
  cases d with
  | dp x => exact hlt h
  | sp x => exact hlt h
  | px x => exact hlt h
  | resource r => rfl

namespace Edges

@[simp] theorem isEmpty_essential (e : Edges) : e.essential.isEmpty = e.isEmpty := by
  have hside (side : Option Dimension) :
      (side.filter fun d => !d.isZero).all Dimension.isZero = side.all Dimension.isZero := by
    cases side with
    | none => rfl
    | some d => cases hd : d.isZero <;> simp [hd]
  simp only [isEmpty, sides, essential, List.all_cons, List.all_nil, hside]

@[simp] theorem hasNegative_essential (e : Edges) : e.essential.hasNegative = e.hasNegative := by
  have hside (side : Option Dimension) :
      (side.filter fun d => !d.isZero).any Dimension.isNegative =
        side.any Dimension.isNegative := by
    cases side with
    | none => rfl
    | some d =>
        cases hd : d.isZero with
        | false => simp [hd]
        | true => simp [hd, Dimension.isNegative_of_isZero hd]
  simp only [hasNegative, sides, essential, List.any_cons, List.any_nil, hside]

end Edges

namespace Compose

@[simp] theorem paddingCall?_essential (e : Edges) : paddingCall? e.essential = paddingCall? e := by
  simp only [paddingCall?, e.isEmpty_essential]
  simp only [Edges.essential, Option.filter_filter, Bool.and_self]

/-! ### Places -/

@[simp] theorem rowAlignment?_essential (place : Option Vertical) :
    rowAlignment? (Vertical.essential place) = rowAlignment? place := by
  rcases place with _ | (_ | _ | _) <;> rfl

@[simp] theorem columnAlignment?_essential (place : Option Horizontal) :
    columnAlignment? (Horizontal.essential place) = columnAlignment? place := by
  rcases place with _ | (_ | _ | _) <;> rfl

@[simp] theorem textAlign?_essential (place : Option Horizontal) :
    textAlign? (Horizontal.essential place) = textAlign? place := by
  rcases place with _ | (_ | _ | _) <;> rfl

@[simp] theorem boxAlignment?_essential (g : Gravity) :
    boxAlignment? g.essential = boxAlignment? g := by
  have hvertical : (Vertical.essential g.vertical).getD .top = g.vertical.getD .top := by
    rcases g.vertical with _ | (_ | _ | _) <;> rfl
  have hhorizontal :
      (Horizontal.essential g.horizontal).getD .leading = g.horizontal.getD .leading := by
    rcases g.horizontal with _ | (_ | _ | _) <;> rfl
  simp only [boxAlignment?, Gravity.essential, hvertical, hhorizontal]

@[simp] theorem childAlignment?_essential (scope : Scope) (g : Gravity) :
    childAlignment? scope g.essential = childAlignment? scope g := by
  cases scope with
  | row => exact rowAlignment?_essential g.vertical
  | column => exact columnAlignment?_essential g.horizontal
  | box => exact boxAlignment?_essential g
  | _ => rfl

/-! ### Code -/

/-- The modifiers of a view depend on the essence of its frame. -/
@[simp] theorem chain_essential (scope : Scope) (kind : Kind) (f : Frame) (extras : List String) :
    chain scope kind f.essential extras = chain scope kind f extras := by
  have hmargin : marginCalls f.essential = marginCalls f := by
    simp only [marginCalls, Frame.essential, f.margin.hasNegative_essential,
      paddingCall?_essential]
  have hpadding : paddingCalls f.essential = paddingCalls f := by
    simp only [paddingCalls, Frame.essential, f.padding.hasNegative_essential,
      paddingCall?_essential]
  have halign : childAlignment? scope f.essential.gravity = childAlignment? scope f.gravity :=
    childAlignment?_essential scope f.gravity
  simp only [chain, hmargin, hpadding, halign]
  rfl

@[simp] theorem textArguments_essential (call : Kotlin.Call) (props : TextProps) :
    textArguments call props.essential = textArguments call props := by
  simp only [textArguments, TextProps.essential, textAlign?_essential]

@[simp] theorem fieldStyle_essential (props : TextProps) :
    fieldStyle props.essential = fieldStyle props := by
  simp only [fieldStyle, TextProps.essential, textAlign?_essential]

/-- The line of a control depends on its essence. -/
@[simp] theorem controlLine_essential (scope : Scope) (f : Frame) (c : Control) :
    controlLine scope f.essential c.essential = controlLine scope f c := by
  cases c with
  | text props =>
      simp only [Control.essential, controlLine, textLine, chain_essential,
        textArguments_essential]
      rfl
  | button label =>
      simp only [Control.essential, controlLine, buttonLine, chain_essential,
        textArguments_essential]
      rfl
  | field props hint input singleLine =>
      simp only [Control.essential, controlLine, fieldLine, chain_essential,
        fieldStyle_essential]
      rfl
  | image source scaling =>
      simp only [Control.essential, controlLine, imageLine, chain_essential]
      rfl
  | toggle form label checked =>
      simp only [Control.essential, controlLine, toggleLine, chain_essential]
      rfl
  | rangeSlider track values =>
      simp only [Control.essential, controlLine, rangeSliderLine, chain_essential]
      rfl
  | slider track value =>
      simp only [Control.essential, controlLine, sliderLine, chain_essential]
      rfl
  | plain =>
      simp only [Control.essential, controlLine, plainLine, chain_essential]
  | inclusion layout => rfl

@[simp] theorem rowCall_essential (modifiers : Kotlin.Chain) (g : Gravity) :
    rowCall modifiers g.essential = rowCall modifiers g := by
  obtain ⟨horizontal, vertical⟩ := g
  simp only [rowCall, Gravity.essential, rowAlignment?_essential]
  rcases horizontal with _ | (_ | _ | _) <;> rfl

@[simp] theorem columnCall_essential (modifiers : Kotlin.Chain) (g : Gravity) :
    columnCall modifiers g.essential = columnCall modifiers g := by
  obtain ⟨horizontal, vertical⟩ := g
  simp only [columnCall, Gravity.essential, columnAlignment?_essential]
  rcases vertical with _ | (_ | _ | _) <;> rfl

@[simp] theorem linearCall_essential (modifiers : Kotlin.Chain) (g : Gravity)
    (orientation : Orientation) :
    linearCall modifiers g.essential orientation = linearCall modifiers g orientation := by
  cases orientation with
  | horizontal => exact rowCall_essential modifiers g
  | vertical => exact columnCall_essential modifiers g

/-- The block of a group depends on its essence. -/
@[simp] theorem enclosure_essential (scope : Scope) (f : Frame) (g : Group) (children : List View) :
    enclosure scope f.essential g.essential children = enclosure scope f g children := by
  cases g with
  | row gravity =>
      simp only [Group.essential, enclosure, chain_essential, rowCall_essential]
  | column gravity =>
      simp only [Group.essential, enclosure, chain_essential, columnCall_essential]
  | box gravity =>
      simp only [Group.essential, enclosure, chain_essential, boxAlignment?_essential]
  | linear gravity orientation =>
      simp only [Group.essential, enclosure, chain_essential, linearCall_essential]
  | radioGroup gravity orientation =>
      simp only [Group.essential, enclosure, chain_essential, linearCall_essential]
  | card corner color elevation => simp only [Group.essential, enclosure, chain_essential]
  | scroll horizontal =>
      simp only [Group.essential, enclosure, chain_essential]
      rfl
  | constraint => simp only [Group.essential, enclosure, chain_essential]

/-- The code of a view, in any scope, depends on its essence. -/
@[simp] theorem viewCode_essential (scope : Scope) (v : View) :
    viewCode scope v.essential = viewCode scope v := by
  cases v with
  | control f c =>
      simp only [View.essential, viewCode, controlLine_essential, Control.kind_essential]
      rfl
  | group f g children =>
      simp only [View.essential, viewCode, enclosure_essential, Group.kind_essential]
      rfl

end Compose

end LayoutCompose
