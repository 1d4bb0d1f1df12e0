import LayoutCompose.View.Frame
import LayoutCompose.View.Kind

/-!
The vocabulary of layout documents: the tags of every kind of view, and the attributes that
each kind understands.
-/

namespace LayoutCompose

inductive Form
  | dimension
  | extent
  | color
  | drawable
  | text
  | number
  | integer
  | boolean
  | id
  | gravity
  | range
  | reference (kind : String)
  | choice (keywords : List String)
  | flags
  | target
  deriving DecidableEq, Repr

def Form.description : Form → String
  | dimension => "dimension"
  | extent => "size"
  | color => "color"
  | drawable => "drawable"
  | text => "text"
  | number => "number"
  | integer => "integer"
  | boolean => "boolean"
  | id => "id"
  | gravity => "gravity"
  | range => "range"
  | reference kind => "@" ++ kind ++ "/name"
  | choice keywords => "one of " ++ "|".intercalate keywords
  | flags => "flags"
  | target => "parent or @id"

/-- An attribute with the form of its values and what it is for. -/
structure Attribute where
  name : String
  form : Form
  doc : String
  deriving DecidableEq, Repr

namespace Vocabulary

def sidesDoc : String :=
  "Accepted with suffixes Top, Bottom, Start, End, Left, Right, Horizontal, Vertical."

def visibilityForm : Form :=
  .choice ["visible", "invisible", "gone"]

def idAttribute : Attribute :=
  ⟨"id", .id, "`@+id/name`; names the node in errors and constraint references."⟩

/-- The attributes that all kinds but inclusions understand, ties between anchors aside. -/
def common : List Attribute :=
  [idAttribute,
    ⟨"layout_width", .extent, "Width. Default `wrap_content`."⟩,
    ⟨"layout_height", .extent, "Height. Default `wrap_content`."⟩,
    ⟨"padding", .dimension, sidesDoc⟩,
    ⟨"paddingTop", .dimension, "Top padding."⟩,
    ⟨"paddingBottom", .dimension, "Bottom padding."⟩,
    ⟨"paddingStart", .dimension, "Start padding; wins over `paddingLeft`."⟩,
    ⟨"paddingEnd", .dimension, "End padding; wins over `paddingRight`."⟩,
    ⟨"paddingLeft", .dimension, "Treated as start padding."⟩,
    ⟨"paddingRight", .dimension, "Treated as end padding."⟩,
    ⟨"paddingHorizontal", .dimension, "Start and end padding."⟩,
    ⟨"paddingVertical", .dimension, "Top and bottom padding."⟩,
    ⟨"layout_margin", .dimension, sidesDoc⟩,
    ⟨"layout_marginTop", .dimension, "Top margin."⟩,
    ⟨"layout_marginBottom", .dimension, "Bottom margin."⟩,
    ⟨"layout_marginStart", .dimension, "Start margin; wins over `layout_marginLeft`."⟩,
    ⟨"layout_marginEnd", .dimension, "End margin; wins over `layout_marginRight`."⟩,
    ⟨"layout_marginLeft", .dimension, "Treated as start margin."⟩,
    ⟨"layout_marginRight", .dimension, "Treated as end margin."⟩,
    ⟨"layout_marginHorizontal", .dimension, "Start and end margin."⟩,
    ⟨"layout_marginVertical", .dimension, "Top and bottom margin."⟩,
    ⟨"background", .drawable, "Background color or drawable."⟩,
    ⟨"visibility", visibilityForm,
      "`gone` views are not emitted; `invisible` ones are fully transparent."⟩,
    ⟨"enabled", .boolean,
      "Default `true`. Forwarded to controls that have an `enabled` parameter."⟩,
    ⟨"alpha", .number, "Opacity in `0..1`. Default 1."⟩,
    ⟨"layout_weight", .number,
      "Share of the remaining space inside a LinearLayout / Row / Column."⟩,
    ⟨"layout_gravity", .gravity, "Alignment inside the parent."⟩,
    ⟨"contentDescription", .text, "Accessibility label."⟩]

/-- One entry stands for all attributes that tie anchors. -/
def constraintAttribute : Attribute :=
  ⟨"layout_constraint*_to*Of", .target,
    "Links an edge to `parent` or to a sibling id; honoured inside ConstraintLayout."⟩

def text : List Attribute :=
  [⟨"text", .text, "Displayed text."⟩,
    ⟨"textColor", .color, "Text color."⟩,
    ⟨"textSize", .dimension, "Font size, usually in `sp`."⟩,
    ⟨"textStyle", .flags, "`normal`, `bold`, `italic` or `bold|italic`."⟩,
    ⟨"fontFamily", .text, "`sans-serif`, `serif`, `monospace`, `cursive` or `@font/name`."⟩,
    ⟨"gravity", .gravity, "Horizontal part becomes the text alignment."⟩,
    ⟨"maxLines", .integer, "Line limit; must be at least 1."⟩,
    ⟨"singleLine", .boolean, "Shorthand for a one-line limit."⟩]

def toggle : List Attribute :=
  [⟨"text", .text, "Label shown next to the control."⟩,
    ⟨"checked", .boolean, "Initial state. Default `false`."⟩]

def track : List Attribute :=
  [⟨"valueFrom", .number, "Lower bound of the value range. Default 0. Alias: `min`."⟩,
    ⟨"min", .number, "Lower bound of the value range. Default 0."⟩,
    ⟨"valueTo", .number, "Upper bound of the value range. Default 1. Alias: `max`."⟩,
    ⟨"max", .number, "Upper bound of the value range. Default 1."⟩,
    ⟨"stepSize", .number,
      "Distance between discrete values; must divide the range. 0 means continuous."⟩]

def gravityAttribute : Attribute :=
  ⟨"gravity", .gravity, "Alignment of the children."⟩

def orientationAttribute : Attribute :=
  ⟨"orientation", .choice ["horizontal", "vertical"], "Layout direction."⟩

end Vocabulary

namespace Kind

/-- The tags of a kind, the usual one first. -/
def tags : Kind → List String
  | text => ["TextView", "Text"]
  | button => ["Button", "com.google.android.material.button.MaterialButton"]
  | field => ["EditText", "com.google.android.material.textfield.TextInputEditText"]
  | image => ["ImageView"]
  | checkBox => ["CheckBox"]
  | radioButton => ["RadioButton"]
  | switch => ["Switch", "androidx.appcompat.widget.SwitchCompat"]
  | rangeSlider => ["RangeSlider", "com.google.android.material.slider.RangeSlider"]
  | slider => ["Slider", "SeekBar", "com.google.android.material.slider.Slider"]
  | plain => ["View", "Space"]
  | inclusion => ["include"]
  | row => ["Row"]
  | column => ["Column"]
  | box => ["Box", "FrameLayout"]
  | linear => ["LinearLayout"]
  | radioGroup => ["RadioGroup"]
  | card =>
    ["CardView", "androidx.cardview.widget.CardView",
      "com.google.android.material.card.MaterialCardView"]
  | scroll =>
    ["ScrollView", "HorizontalScrollView", "androidx.core.widget.NestedScrollView"]
  | constraint => ["ConstraintLayout", "androidx.constraintlayout.widget.ConstraintLayout"]

def doc : Kind → String
  | text => "A read-only block of text."
  | button => "A pressable button with a text label."
  | field => "An editable text field."
  | image => "A drawable resource."
  | checkBox => "A checkbox, optionally labelled."
  | radioButton => "A radio button, optionally labelled."
  | switch => "An on/off switch, optionally labelled."
  | rangeSlider => "A slider with two thumbs selecting a sub-range."
  | slider => "A single-thumb slider."
  | plain => "An empty box: dividers, spacers, colored blocks."
  | inclusion => "Calls the composable generated for another layout file."
  | row => "Children laid out horizontally."
  | column => "Children laid out vertically."
  | box => "Children stacked on top of each other."
  | linear => "A Row or a Column depending on `orientation` (default horizontal)."
  | radioGroup => "A selectable group of radio buttons (default vertical)."
  | card => "A raised surface with rounded corners."
  | scroll => "Scrolls exactly one child; `HorizontalScrollView` scrolls sideways."
  | constraint => "Children positioned by `layout_constraint*` links."

def hasCommon : Kind → Bool
  | inclusion => false
  | _ => true

def ownAttributes : Kind → List Attribute
  | text | button => Vocabulary.text
  | field =>
    Vocabulary.text ++
      [⟨"hint", .text, "Placeholder shown while empty."⟩,
        ⟨"inputType", .flags,
          "Password and keyboard flags are honoured; others are dropped."⟩]
  | image =>
    [⟨"src", .reference "drawable", "Image resource. Required (or `srcCompat`)."⟩,
      ⟨"srcCompat", .reference "drawable", "Image resource. Used when `src` is absent."⟩,
      ⟨"scaleType", .choice ["fitCenter", "centerCrop", "fitXY", "center", "centerInside"],
        "How the image fills its bounds. Default `fitCenter`."⟩]
  | checkBox | radioButton | switch => Vocabulary.toggle
  | rangeSlider =>
    Vocabulary.track ++
      [⟨"values", .range, "Initial thumb positions. Default: the whole range."⟩]
  | slider =>
    Vocabulary.track ++
      [⟨"value", .number,
          "Initial position. Default: the lower bound. Alias: `progress`."⟩,
        ⟨"progress", .number, "Initial position."⟩]
  | inclusion =>
    [⟨"layout", .reference "layout", "The included layout. Required."⟩,
      Vocabulary.idAttribute,
      ⟨"visibility", Vocabulary.visibilityForm, "`gone` drops the call."⟩]
  | row | column | box => [Vocabulary.gravityAttribute]
  | linear | radioGroup => [Vocabulary.gravityAttribute, Vocabulary.orientationAttribute]
  | card =>
    [⟨"cardCornerRadius", .dimension, "Corner radius."⟩,
      ⟨"cardBackgroundColor", .color, "Surface color."⟩,
      ⟨"cardElevation", .dimension, "Shadow elevation."⟩]
  | plain | scroll | constraint => []

def ofTag? (tag : String) : Option Kind :=
  all.find? fun kind => kind.tags.contains tag

def entry? (kind : Kind) (name : String) : Option Attribute :=
  match kind.ownAttributes.find? fun a => a.name == name with
  | some a => some a
  | none =>
    if !kind.hasCommon then none
    else
      match Vocabulary.common.find? fun a => a.name == name with
      | some a => some a
      | none =>
        if Constraint.attributes.any fun (n, _) => n == name then
          some Vocabulary.constraintAttribute
        else none

end Kind

end LayoutCompose
