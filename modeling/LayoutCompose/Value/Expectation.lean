/-!
What the grammar of an attribute accepts, in words. A value that does not fit is refused with
the expectation it fails.
-/

namespace LayoutCompose

inductive Expectation
  | number
  | nonNegative
  | integer
  | boolean
  | dimension
  | extent
  | color
  | drawable
  | image
  | layout
  | caption
  | id
  | gravity
  | span
  | orderedSpan
  | visibility
  | orientation
  | textStyle
  | font
  | scaling
  | inputType
  | target
  deriving DecidableEq, Repr

/-- The accepted forms, as they are shown to the user. -/
def Expectation.description : Expectation → String
  | number => "a decimal number"
  | nonNegative => "a non-negative decimal number"
  | integer => "a non-negative integer"
  | boolean => "`true` or `false`"
  | dimension => "a dimension such as `16dp`, `14sp`, `2px` or `@dimen/name`"
  | extent =>
    "`match_parent`, `wrap_content`, a percentage such as `50%` or a dimension"
  | color =>
    "a color such as `#ff0000`, `#80ff0000`, `@color/name` or `?attr/colorPrimary`"
  | drawable => "a color or a `@drawable/name` reference"
  | image => "a `@drawable/name` or `@mipmap/name` reference"
  | layout => "a `@layout/name` reference"
  | caption => "literal text or a `@string/name` reference"
  | id => "an id such as `@+id/name`"
  | gravity =>
    "`|`-separated gravity flags (top, bottom, start, end, left, right, center, " ++
      "center_horizontal, center_vertical)"
  | span => "a range such as `20..80` or `[20, 80]`"
  | orderedSpan => "a range whose start does not exceed its end"
  | visibility => "`visible`, `invisible` or `gone`"
  | orientation => "`horizontal` or `vertical`"
  | textStyle => "`normal`, `bold`, `italic` or `bold|italic`"
  | font => "`sans-serif`, `serif`, `monospace`, `cursive` or `@font/name`"
  | scaling => "`fitCenter`, `centerCrop`, `fitXY`, `center` or `centerInside`"
  | inputType => "`|`-separated input type flags such as `textPassword`"
  | target => "`parent` or a sibling id such as `@id/title`"

def Expectation.message (e : Expectation) : String :=
  "expected " ++ e.description

end LayoutCompose
