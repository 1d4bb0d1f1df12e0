import LayoutCompose.Value.Reference
import LayoutCompose.Value.Scalar

/-!
Colours, and what may be drawn behind a view or shown as an image.
-/

namespace LayoutCompose

inductive ThemeColor
  | primary
  | primaryVariant
  | secondary
  | secondaryVariant
  | background
  | surface
  | error
  | onPrimary
  | onSecondary
  | onBackground
  | onSurface
  | onError
  deriving DecidableEq, Repr

/-- The attribute names under which markup speaks of the colours of the theme. -/
def ThemeColor.attributes : List (String × ThemeColor) :=
  [("colorPrimary", .primary),
    ("colorPrimaryVariant", .primaryVariant),
    ("colorPrimaryDark", .primaryVariant),
    ("colorSecondary", .secondary),
    ("colorAccent", .secondary),
    ("colorSecondaryVariant", .secondaryVariant),
    ("colorBackground", .background),
    ("colorSurface", .surface),
    ("colorError", .error),
    ("colorOnPrimary", .onPrimary),
    ("colorOnSecondary", .onSecondary),
    ("colorOnBackground", .onBackground),
    ("colorOnSurface", .onSurface),
    ("colorOnError", .onError)]

/-- Reads the part after `?`: a name with an optional `android:` and an optional `attr/`. -/
def ThemeColor.read? (cs : List Char) : Option ThemeColor :=
  let name := Text.dropHead "attr/".toList (Text.dropHead "android:".toList cs)
  ThemeColor.attributes.lookup (String.ofList name)

/-- A colour as a word `AARRGGBB`, as a resource, or by its meaning in the theme. -/
inductive Color
  | argb (word : UInt32)
  | resource (reference : Reference)
  | theme (color : ThemeColor)
  deriving DecidableEq, Repr

namespace Color

def isHexDigit (c : Char) : Bool :=
  c.isDigit || ('a' ≤ c && c ≤ 'f') || ('A' ≤ c && c ≤ 'F')

def hexValue (c : Char) : Nat :=
  if c.isDigit then c.toNat - 48
  else if 'a' ≤ c then c.toNat - 87
  else c.toNat - 55

def ofHexDigits (cs : List Char) : Nat :=
  cs.foldl (fun n c => 16 * n + hexValue c) 0

/-- The word written by the digits after `#`. In the short forms every digit counts twice, and
without alpha digits the colour is opaque. -/
def ofHex? (cs : List Char) : Option UInt32 :=
  if cs.all isHexDigit then
    match cs.length with
    | 3 => some (UInt32.ofNat (0xFF000000 + ofHexDigits (cs.flatMap fun c => [c, c])))
    | 4 => some (UInt32.ofNat (ofHexDigits (cs.flatMap fun c => [c, c])))
    | 6 => some (UInt32.ofNat (0xFF000000 + ofHexDigits cs))
    | 8 => some (UInt32.ofNat (ofHexDigits cs))
    | _ => none
  else none

def read? (s : String) : Option Color :=
  match Text.trim s.toList with
  | '#' :: cs => (ofHex? cs).map argb
  | '?' :: cs => (ThemeColor.read? cs).map theme
  | cs => (Reference.ofKinds? ["color"] (String.ofList cs)).map resource

def read (s : String) : Except Expectation Color :=
  match read? s with
  | some c => .ok c
  | none => .error .color

end Color

def Reference.readImage (s : String) : Except Expectation Reference :=
  match ofKinds? ["drawable", "mipmap"] s with
  | some r => .ok r
  | none => .error .image

def Reference.readLayout (s : String) : Except Expectation Reference :=
  match ofKinds? ["layout"] s with
  | some r => .ok r
  | none => .error .layout

inductive Drawable
  | color (color : Color)
  | resource (reference : Reference)
  deriving DecidableEq, Repr

def Drawable.read (s : String) : Except Expectation Drawable :=
  match Color.read? s with
  | some c => .ok (.color c)
  | none =>
    match Reference.readImage s with
    | .ok r => .ok (.resource r)
    | .error _ => .error .drawable

end LayoutCompose
