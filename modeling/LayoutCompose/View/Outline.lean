import LayoutCompose.View.Basic

/-!
Walks over views, and the bare views of the kinds.
-/

namespace LayoutCompose

mutual

/-- The kinds of a view and of all views in it, each before its children, with their depth. -/
def View.outline (depth : Nat) : View → List (Nat × Kind)
  | .control _ c => [(depth, c.kind)]
  | .group _ g children => (depth, g.kind) :: View.outlines (depth + 1) children

def View.outlines (depth : Nat) : List View → List (Nat × Kind)
  | [] => []
  | v :: vs => v.outline depth ++ View.outlines depth vs

end

def Layout.outline (layout : Layout) : List (Nat × Kind) :=
  View.outlines 0 layout.roots

/-- The view of a kind of which nothing is said. A kind that needs a source, a layout or an
orientation has none. -/
def View.bare? : Kind → Option View
  | .text => some (.control {} (.text {}))
  | .button => some (.control {} (.button {}))
  | .field => some (.control {} (.field {} none {} false))
  | .checkBox => some (.control {} (.toggle .checkBox .empty false))
  | .radioButton => some (.control {} (.toggle .radioButton .empty false))
  | .switch => some (.control {} (.toggle .switch .empty false))
  | .rangeSlider => some (.control {} (.rangeSlider {} none))
  | .slider => some (.control {} (.slider {} none))
  | .plain => some (.control {} .plain)
  | .row => some (.group {} (.row {}) [])
  | .column => some (.group {} (.column {}) [])
  | .box => some (.group {} (.box {}) [])
  | .card => some (.group {} (.card none none none) [])
  | .scroll => some (.group {} (.scroll false) [])
  | .constraint => some (.group {} .constraint [])
  | .image | .inclusion | .linear | .radioGroup => none

end LayoutCompose
