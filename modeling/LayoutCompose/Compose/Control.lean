import LayoutCompose.Compose.Chain
import LayoutCompose.Number.Decimal

/-!
Controls as lines of code.

The arguments of a call stand in the order in which Compose declares them. One whose value is
the default is left out.
-/

namespace LayoutCompose.Compose

open Kotlin (Call Chain)

/-- Names the view with a misfit. -/
def blame (kind : Kind) (f : Frame) {α : Type} (x : Except Misfit α) : Noted Error α :=
  Noted.of (x.mapError fun misfit => ⟨kind, f.id, misfit⟩)

def textAlign? : Option Horizontal → Option String
  | some .center => some "TextAlign.Center"
  | some .trailing => some "TextAlign.End"
  | _ => none

def lineLimit : Option Nat → Except Misfit (Option String)
  | some 0 => .error .noLines
  | limit => .ok (limit.map toString)

/-- A constant argument that is there under a condition. -/
def constant? (condition : Bool) (value : String) : Option String :=
  if condition then some value else none

def textArguments (call : Call) (props : TextProps) : Except Misfit Call := do
  let limit ← lineLimit props.maxLines
  return call
    |>.argOf "color" (props.color.map Color.expression)
    |>.argOf "fontSize" (props.size.map Dimension.spExpression)
    |>.argOf "fontStyle" (constant? props.style.italic "FontStyle.Italic")
    |>.argOf "fontWeight" (constant? props.style.bold "FontWeight.Bold")
    |>.argOf "fontFamily" (props.font.map Font.expression)
    |>.argOf "textAlign" (textAlign? props.align)
    |>.argOf "maxLines" limit

def fieldStyle (props : TextProps) : Call :=
  ({ name := "TextStyle" } : Call)
    |>.argOf "color" (props.color.map Color.expression)
    |>.argOf "fontSize" (props.size.map Dimension.spExpression)
    |>.argOf "fontWeight" (constant? props.style.bold "FontWeight.Bold")
    |>.argOf "fontStyle" (constant? props.style.italic "FontStyle.Italic")
    |>.argOf "fontFamily" (props.font.map Font.expression)
    |>.argOf "textAlign" (textAlign? props.align)

def keyboardName : Keyboard → String
  | .number => "Number"
  | .decimal => "Decimal"
  | .phone => "Phone"
  | .email => "Email"
  | .uri => "Uri"

def keyboardType? (input : InputType) : Option String :=
  if input.password then
    some (if input.keyboard = some .number then "NumberPassword" else "Password")
  else input.keyboard.map keyboardName

def textLine (scope : Scope) (f : Frame) (props : TextProps) : Noted Error String := do
  let modifiers ← chain scope .text f []
  let call := ({ name := "Text" } : Call)
    |>.arg "text" props.text.expression
    |>.modified modifiers
  let call ← blame .text f (textArguments call props)
  return call.text

def buttonLine (scope : Scope) (f : Frame) (label : TextProps) : Noted Error String := do
  let modifiers ← chain scope .button f []
  let button := ({ name := "Button" } : Call)
    |>.arg "onClick" "\x7b\x7d"
    |>.modified modifiers
    |>.enabled f.enabled
  let text := ({ name := "Text" } : Call).arg "text" label.text.expression
  let text ← blame .button f (textArguments text label)
  return button.text ++ " \x7b " ++ text.text ++ " \x7d"

def fieldLine (scope : Scope) (f : Frame) (props : TextProps) (hint : Option Caption)
    (input : InputType) (singleLine : Bool) : Noted Error String := do
  let modifiers ← chain scope .field f []
  let limit ← blame .field f (lineLimit props.maxLines)
  let style := fieldStyle props
  let call := ({ name := "TextField" } : Call)
    |>.arg "value" props.text.expression
    |>.arg "onValueChange" "\x7b\x7d"
    |>.modified modifiers
    |>.enabled f.enabled
    |>.argOf "textStyle" (constant? (!style.arguments.isEmpty) style.text)
    |>.argOf "placeholder"
      (hint.map fun h => "\x7b Text(text = " ++ h.expression ++ ") \x7d")
    |>.argOf "visualTransformation"
      (constant? input.password "PasswordVisualTransformation()")
    |>.argOf "keyboardOptions"
      ((keyboardType? input).map fun k =>
        "KeyboardOptions(keyboardType = KeyboardType." ++ k ++ ")")
    |>.argOf "singleLine" (constant? singleLine "true")
    |>.argOf "maxLines" limit
  return call.text

def contentScale? : Scaling → Option String
  | .fitCenter => none
  | .centerCrop => some "ContentScale.Crop"
  | .fitXY => some "ContentScale.FillBounds"
  | .center => some "ContentScale.None"
  | .centerInside => some "ContentScale.Inside"

def imageLine (scope : Scope) (f : Frame) (source : Reference) (scaling : Scaling) :
    Noted Error String := do
  let modifiers ← chain scope .image f []
  let description := (f.description.map Caption.expression).getD "null"
  let call := ({ name := "Image" } : Call)
    |>.arg "painter" ("painterResource(id = " ++ source.constant ++ ")")
    |>.arg "contentDescription" description
    |>.modified modifiers
    |>.argOf "contentScale" (contentScale? scaling)
  return call.text

def toggleCall (form : ToggleForm) (checked : Bool) : Call :=
  let state := if checked then "true" else "false"
  match form with
  | .radioButton =>
    ({ name := "RadioButton" } : Call).arg "selected" state |>.arg "onClick" "\x7b\x7d"
  | .switch =>
    ({ name := "Switch" } : Call).arg "checked" state |>.arg "onCheckedChange" "\x7b\x7d"
  | .checkBox =>
    ({ name := "Checkbox" } : Call).arg "checked" state |>.arg "onCheckedChange" "\x7b\x7d"

/-- A toggle; one with a label stands in a row with it. -/
def toggleLine (scope : Scope) (f : Frame) (form : ToggleForm) (label : Caption)
    (checked : Bool) : Noted Error String := do
  let modifiers ← chain scope form.kind f []
  let call := toggleCall form checked
  if label.isEmpty then return (call.modified modifiers |>.enabled f.enabled).text
  else
    let row := ({ name := "Row" } : Call)
      |>.modified modifiers
      |>.arg "verticalAlignment" "Alignment.CenterVertically"
    let text := ({ name := "Text" } : Call).arg "text" label.expression
    return row.text ++ " \x7b " ++ (call.enabled f.enabled).text ++ "; " ++ text.text ++ " \x7d"

/-- How far a count of intervals may be from a whole number. -/
def stepTolerance : Single :=
  (⟨false, 1, -3⟩ : Decimal).toSingle

def maxIntervals : Int := 9223372036854775807

/-- The number of stops between the ends of a track. A track without steps has none, and one
with steps has to be divided evenly. -/
def trackStops (t : Track) : Except Misfit (Option Int) :=
  let span := t.upper.sub t.lower
  if t.upper.lt t.lower then .error (.boundsReversed t)
  else if t.step.le Single.zero || span.eq Single.zero then .ok none
  else
    let intervals := span.div t.step
    let whole := intervals.round
    if stepTolerance.lt (intervals.sub whole).abs then .error (.unevenStep t)
    else
      let stops := min whole.toInt maxIntervals - 1
      .ok (if 0 < stops then some stops else none)

/-- The range of a track, where it is not from zero to one. -/
def valueRange? (t : Track) : Option String :=
  if t.lower.eq Single.zero && t.upper.eq Single.one then none
  else some (Kotlin.floatSpan t.lower t.upper)

def sliderCall (name value : String) (modifiers : Chain) (f : Frame) (t : Track)
    (stops : Option Int) : Call :=
  ({ name } : Call)
    |>.arg "value" value
    |>.arg "onValueChange" "\x7b\x7d"
    |>.modified modifiers
    |>.enabled f.enabled
    |>.argOf "valueRange" (valueRange? t)
    |>.argOf "steps" (stops.map toString)

def rangeSliderLine (scope : Scope) (f : Frame) (t : Track) (values : Option Span) :
    Noted Error String := do
  let stops ← blame .rangeSlider f (trackStops t)
  let values := values.getD ⟨t.lower, t.upper⟩
  if values.lower.lt t.lower || t.upper.lt values.upper then
    .error ⟨.rangeSlider, f.id, .valuesOutside values t⟩
  else
    let modifiers ← chain scope .rangeSlider f []
    return (sliderCall "RangeSlider" (Kotlin.floatSpan values.lower values.upper) modifiers f t
      stops).text

def sliderLine (scope : Scope) (f : Frame) (t : Track) (value : Option Single) :
    Noted Error String := do
  let stops ← blame .slider f (trackStops t)
  let value := value.getD t.lower
  if !(Span.contains ⟨t.lower, t.upper⟩ value) then
    .error ⟨.slider, f.id, .valueOutside value t⟩
  else
    let modifiers ← chain scope .slider f []
    return (sliderCall "Slider" (Kotlin.floatLiteral value) modifiers f t stops).text

/-- A view that only takes room. -/
def plainLine (scope : Scope) (f : Frame) : Noted Error String := do
  let modifiers ← chain scope .plain f []
  return (({ name := "Spacer" } : Call).arg "modifier" (modifiers.text?.getD "Modifier")).text

/-- The call of the function for another layout, which takes no modifiers. -/
def inclusionLine (f : Frame) (layout : Reference) : Noted Error String := do
  if f.visibility = .invisible then .note (.invisibleInclusion layout.name)
  return Kotlin.functionName layout.name ++ "()"

def controlLine (scope : Scope) (f : Frame) : Control → Noted Error String
  | .text props => textLine scope f props
  | .button label => buttonLine scope f label
  | .field text hint input singleLine => fieldLine scope f text hint input singleLine
  | .image source scaling => imageLine scope f source scaling
  | .toggle form label checked => toggleLine scope f form label checked
  | .rangeSlider track values => rangeSliderLine scope f track values
  | .slider track value => sliderLine scope f track value
  | .plain => plainLine scope f
  | .inclusion layout => inclusionLine f layout

end LayoutCompose.Compose
