import LayoutCompose.Value.Reference
import LayoutCompose.Value.Scalar

/-!
Texts shown to the user, and the identifiers of views.
-/

namespace LayoutCompose

/-- A text to show, given in place or as a resource. -/
inductive Caption
  | literal (text : String)
  | resource (reference : Reference)
  deriving DecidableEq, Repr, Inhabited

namespace Caption

def empty : Caption := literal ""

def isEmpty : Caption → Bool
  | literal s => s == ""
  | resource _ => false

/-- Decodes backslash escapes: `\n` and `\t` are a line feed and a tab, and any other character
after a backslash stands for itself. A backslash at the very end is kept. -/
def unescape : List Char → List Char
  | [] => []
  | '\\' :: 'n' :: cs => '\n' :: unescape cs
  | '\\' :: 't' :: cs => '\t' :: unescape cs
  | '\\' :: c :: cs => c :: unescape cs
  | c :: cs => c :: unescape cs

/-- A text that begins with `@` or `?` has to be a reference to a string. -/
def read (s : String) : Except Expectation Caption :=
  if s.toList.head? = some '@' ∨ s.toList.head? = some '?' then
    match Reference.ofKinds? ["string"] s with
    | some r => .ok (resource r)
    | none => .error .caption
  else .ok (literal (String.ofList (unescape s.toList)))

end Caption

/-- Reads `@id/name` or `@+id/name` as the bare name. -/
def readId (s : String) : Except Expectation String :=
  match Reference.ofKinds? ["id"] s with
  | some r => .ok r.name
  | none => .error .id

end LayoutCompose
