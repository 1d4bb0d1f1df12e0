/-!
Code as lines and blocks, and the page on which it is written. Each block stands one level
deeper than its header.
-/

namespace LayoutCompose.Kotlin

/-- A line of code, or a header with a block in braces. -/
inductive Code
  | line (text : String)
  | block (header : String) (body : List Code)

def indentation (depth : Nat) : String :=
  String.ofList (List.replicate (4 * depth) ' ')

/-- Lines written so far, and the depth of the next one. -/
structure Page where
  depth : Nat := 0
  text : String := ""
  deriving DecidableEq, Repr, Inhabited

namespace Page

def line (page : Page) (text : String) : Page :=
  { page with text := page.text ++ indentation page.depth ++ text ++ "\n" }

def enter (page : Page) (header : String) : Page :=
  let page := page.line (header ++ " \x7b")
  { page with depth := page.depth + 1 }

def leave (page : Page) : Page :=
  { page with depth := page.depth - 1 }.line "\x7d"

end Page

mutual

def Code.write (page : Page) : Code → Page
  | .line text => page.line text
  | .block header body => (Code.writeAll (page.enter header) body).leave

def Code.writeAll (page : Page) : List Code → Page
  | [] => page
  | code :: rest => Code.writeAll (code.write page) rest

end

end LayoutCompose.Kotlin
