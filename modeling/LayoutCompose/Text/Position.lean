import LayoutCompose.Text.Blank

/-!
Lines and columns.
-/

namespace LayoutCompose

/-- A place in a text, counting lines and characters from one. -/
structure Position where
  line : Nat
  column : Nat
  deriving DecidableEq, Repr

namespace Position

def after (p : Position) (c : Char) : Position :=
  if c = '\n' then ⟨p.line + 1, 1⟩ else ⟨p.line, p.column + 1⟩

/-- The place in `cs`, which begins at `p`, of the character `offset` bytes on or of the first
one after it that is not white space. -/
def seek (p : Position) : (offset : Nat) → List Char → Position
  | _, [] => p
  | offset, c :: cs =>
    if c.utf8Size ≤ offset ∨ Text.isBlank c then seek (p.after c) (offset - c.utf8Size) cs else p

def ofOffset (source : List Char) (offset : Nat) : Position :=
  seek ⟨1, 1⟩ offset source

end Position

end LayoutCompose
