import LayoutCompose.Value.Reference
import LayoutCompose.Value.Scalar

/-!
Values chosen from a list of keywords.
-/

namespace LayoutCompose

/-- A view that is gone takes no room; an invisible one does. -/
inductive Visibility
  | visible
  | invisible
  | gone
  deriving DecidableEq, Repr, Inhabited

def Visibility.read (s : String) : Except Expectation Visibility :=
  readKeyword
    [("visible", Visibility.visible), ("invisible", .invisible), ("gone", .gone)] .visibility s

inductive Orientation
  | horizontal
  | vertical
  deriving DecidableEq, Repr

def Orientation.read (s : String) : Except Expectation Orientation :=
  readKeyword
    [("horizontal", Orientation.horizontal), ("vertical", .vertical)] .orientation s

inductive Scaling
  | fitCenter
  | centerCrop
  | fitXY
  | center
  | centerInside
  deriving DecidableEq, Repr, Inhabited

def Scaling.read (s : String) : Except Expectation Scaling :=
  readKeyword
    [("fitCenter", Scaling.fitCenter), ("centerCrop", .centerCrop), ("fitXY", .fitXY),
      ("center", .center), ("centerInside", .centerInside)] .scaling s

inductive Font
  | sansSerif
  | serif
  | monospace
  | cursive
  | resource (reference : Reference)
  deriving DecidableEq, Repr

/-- Every name that begins with `sans-serif` stands for the plain family. -/
def Font.read? (s : String) : Option Font :=
  match trimmed s with
  | "serif" => some .serif
  | "monospace" => some .monospace
  | "cursive" => some .cursive
  | t =>
    if (Text.stripHead? "sans-serif".toList t.toList).isSome then some .sansSerif
    else (Reference.ofKinds? ["font"] t).map .resource

def Font.read (s : String) : Except Expectation Font :=
  match Font.read? s with
  | some f => .ok f
  | none => .error .font

end LayoutCompose
