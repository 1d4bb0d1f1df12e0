import LayoutCompose.Value.Scalar

/-!
Values written as flags separated by `|`: gravity, text style and input type. Each flag changes
the value that the flags before it have made.
-/

namespace LayoutCompose

/-- The flags of a text, without the white space around each. -/
def flags (s : String) : List String :=
  (Text.pieces '|' s.toList).map fun cs => String.ofList (Text.trim cs)

/-- Applies flags in order; one without a meaning refuses the whole. -/
def applyFlags {α : Type} (apply : α → String → Option α) : α → List String → Option α
  | a, [] => some a
  | a, flag :: rest => (apply a flag).bind fun b => applyFlags apply b rest

def readFlags {α : Type} (start : α) (apply : α → String → Option α) (e : Expectation)
    (s : String) : Except Expectation α :=
  match applyFlags apply start (flags s) with
  | some a => .ok a
  | none => .error e

/-- The place along a line, in reading direction. -/
inductive Horizontal
  | leading
  | center
  | trailing
  deriving DecidableEq, Repr

inductive Vertical
  | top
  | center
  | bottom
  deriving DecidableEq, Repr

/-- A place in the available room; an axis may be left open. -/
structure Gravity where
  horizontal : Option Horizontal := none
  vertical : Option Vertical := none
  deriving DecidableEq, Repr, Inhabited

namespace Gravity

def apply (g : Gravity) : String → Option Gravity
  | "top" => some { g with vertical := some .top }
  | "bottom" => some { g with vertical := some .bottom }
  | "center_vertical" => some { g with vertical := some .center }
  | "start" | "left" => some { g with horizontal := some .leading }
  | "end" | "right" => some { g with horizontal := some .trailing }
  | "center_horizontal" => some { g with horizontal := some .center }
  | "center" => some ⟨some .center, some .center⟩
  | _ => none

def read (s : String) : Except Expectation Gravity :=
  readFlags {} apply .gravity s

end Gravity

structure TextStyle where
  bold : Bool := false
  italic : Bool := false
  deriving DecidableEq, Repr, Inhabited

namespace TextStyle

def apply (style : TextStyle) : String → Option TextStyle
  | "normal" => some style
  | "bold" => some { style with bold := true }
  | "italic" => some { style with italic := true }
  | _ => none

def read (s : String) : Except Expectation TextStyle :=
  readFlags {} apply .textStyle s

end TextStyle

inductive Keyboard
  | number
  | decimal
  | phone
  | email
  | uri
  deriving DecidableEq, Repr

/-- What a text field takes: whether it is hidden, and on which keyboard it is typed. -/
structure InputType where
  password : Bool := false
  keyboard : Option Keyboard := none
  deriving DecidableEq, Repr, Inhabited

namespace InputType

def isPassword (flag : String) : Bool :=
  ["textPassword", "textWebPassword", "numberPassword"].contains flag

def keyboardOf? (flag : String) : Option Keyboard :=
  [("number", Keyboard.number), ("numberSigned", .number), ("numberPassword", .number),
    ("numberDecimal", .decimal), ("phone", .phone), ("textEmailAddress", .email),
    ("textWebEmailAddress", .email), ("textUri", .uri)].lookup flag

/-- Any flag of letters is accepted, with a meaning or without. The decimal keyboard is never
given up for another. -/
def apply (input : InputType) (flag : String) : Option InputType :=
  if flag = "" ∨ !flag.toList.all Char.isAlpha then none
  else some
    { password := input.password || isPassword flag
      keyboard :=
        if input.keyboard = some .decimal then input.keyboard
        else keyboardOf? flag <|> input.keyboard }

def read (s : String) : Except Expectation InputType :=
  readFlags {} apply .inputType s

end InputType

end LayoutCompose
