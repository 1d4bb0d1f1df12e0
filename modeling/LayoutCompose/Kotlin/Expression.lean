import LayoutCompose.Kotlin.Literal
import LayoutCompose.Value.Caption
import LayoutCompose.Value.Choice
import LayoutCompose.Value.Color
import LayoutCompose.Value.Dimension

/-!
Values of attributes as Kotlin expressions.
-/

namespace LayoutCompose

/-- The constant under which a resource is found. -/
def Reference.constant (r : Reference) : String :=
  (if r.framework then "android.R" else "R") ++ "." ++ r.kind ++ "." ++ r.name

/-- An expression of a length; scaled pixels count as plain ones. -/
def Dimension.dpExpression : Dimension → String
  | .dp x | .sp x => Kotlin.numeral x ++ ".dp"
  | .px x => "with(LocalDensity.current) \x7b " ++ Kotlin.floatLiteral x ++ ".toDp() \x7d"
  | .resource r => "dimensionResource(id = " ++ r.constant ++ ")"

/-- An expression of a text size; plain pixels count as scaled ones. -/
def Dimension.spExpression : Dimension → String
  | .sp x | .dp x => Kotlin.numeral x ++ ".sp"
  | .px x => "with(LocalDensity.current) \x7b " ++ Kotlin.floatLiteral x ++ ".toSp() \x7d"
  | .resource r => "dimensionResource(id = " ++ r.constant ++ ").value.sp"

def ThemeColor.property : ThemeColor → String
  | .primary => "primary"
  | .primaryVariant => "primaryVariant"
  | .secondary => "secondary"
  | .secondaryVariant => "secondaryVariant"
  | .background => "background"
  | .surface => "surface"
  | .error => "error"
  | .onPrimary => "onPrimary"
  | .onSecondary => "onSecondary"
  | .onBackground => "onBackground"
  | .onSurface => "onSurface"
  | .onError => "onError"

def Color.expression : Color → String
  | .argb word =>
    if word = 0xFFFFFFFF then "Color.White"
    else if word = 0xFF000000 then "Color.Black"
    else if word = 0 then "Color.Transparent"
    else "Color(0x" ++ String.ofList (Kotlin.hexDigits 8 word.toNat) ++ ")"
  | .resource r => "colorResource(id = " ++ r.constant ++ ")"
  | .theme color => "MaterialTheme.colors." ++ color.property

def Caption.expression : Caption → String
  | .literal text => Kotlin.stringLiteral text
  | .resource r => "stringResource(id = " ++ r.constant ++ ")"

def Font.expression : Font → String
  | .sansSerif => "FontFamily.SansSerif"
  | .serif => "FontFamily.Serif"
  | .monospace => "FontFamily.Monospace"
  | .cursive => "FontFamily.Cursive"
  | .resource r => "FontFamily(Font(" ++ r.constant ++ "))"

end LayoutCompose
