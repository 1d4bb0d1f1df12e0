/-!
Classes of characters given by ranges of their codes.
-/

namespace LayoutCompose.Text

def inRanges (ranges : List (Nat × Nat)) (c : Char) : Bool :=
  ranges.any fun (first, last) => first ≤ c.toNat && c.toNat ≤ last

end LayoutCompose.Text
