import LayoutCompose.View.Vocabulary

/-!
The vocabulary as a text to read.
-/

namespace LayoutCompose.Vocabulary

/-- A text filled up with spaces to a width. -/
def pad (width : Nat) (s : String) : String :=
  s ++ String.ofList (List.replicate (width - s.length) ' ')

def attributeLine (width : Nat) (a : Attribute) : String :=
  "    " ++ pad width a.name ++ " " ++ pad 18 a.form.description ++ " " ++ a.doc ++ "\n"

def kindText (kind : Kind) : String :=
  kind.name ++ "  <" ++ "> <".intercalate kind.tags ++ ">\n" ++
    "    " ++ kind.doc ++ "\n" ++
    String.join (kind.ownAttributes.map (attributeLine 22)) ++
    (if kind.hasCommon then
      "    (+ " ++ toString common.length ++ " common attributes and layout_constraint*)\n"
    else "") ++
    "\n"

/-- All kinds with their tags and attributes, and then the attributes they share. -/
def listing : String :=
  String.join (Kind.all.map kindText) ++ "Common attributes:\n" ++
    String.join (common.map (attributeLine 24))

end LayoutCompose.Vocabulary
