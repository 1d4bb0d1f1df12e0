/-!
The kinds of views.
-/

namespace LayoutCompose

inductive Kind
  | text
  | button
  | field
  | image
  | checkBox
  | radioButton
  | switch
  | rangeSlider
  | slider
  | plain
  | inclusion
  | row
  | column
  | box
  | linear
  | radioGroup
  | card
  | scroll
  | constraint
  deriving DecidableEq, Repr

namespace Kind

def all : List Kind :=
  [text, button, field, image, checkBox, radioButton, switch, rangeSlider, slider, plain,
    inclusion, row, column, box, linear, radioGroup, card, scroll, constraint]

def name : Kind → String
  | text => "Text"
  | button => "Button"
  | field => "EditText"
  | image => "Image"
  | checkBox => "CheckBox"
  | radioButton => "RadioButton"
  | switch => "Switch"
  | rangeSlider => "RangeSlider"
  | slider => "Slider"
  | plain => "View"
  | inclusion => "Include"
  | row => "Row"
  | column => "Column"
  | box => "Box"
  | linear => "LinearLayout"
  | radioGroup => "RadioGroup"
  | card => "Card"
  | scroll => "ScrollView"
  | constraint => "ConstraintLayout"

def isGroup : Kind → Bool
  | row | column | box | linear | radioGroup | card | scroll | constraint => true
  | _ => false

end Kind

end LayoutCompose
