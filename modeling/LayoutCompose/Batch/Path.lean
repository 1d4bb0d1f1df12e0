import LayoutCompose.Kotlin.Name
import LayoutCompose.Text.Blank

/-!
Paths of files, as texts with slashes.

Empty pieces and pieces of a single dot mean nothing, except for a dot at the very beginning. The
last piece that means something is the name of the file, unless it is `..`.
-/

namespace LayoutCompose.Path

/-- What a path begins with, a slash or a dot for the current directory, and the rest. -/
def splitHead : List Char → List Char × List Char
  | '/' :: cs => (['/'], cs)
  | ['.'] => (['.'], [])
  | '.' :: '/' :: cs => (['.'], '/' :: cs)
  | cs => ([], cs)

/-- Pieces without those at the end that mean nothing. -/
def solid (pieces : List (List Char)) : List (List Char) :=
  (pieces.reverse.dropWhile fun p => p == [] || p == ['.']).reverse

def pieces (path : String) : List (List Char) :=
  solid (Text.pieces '/' (splitHead path.toList).2)

def fileName? (path : String) : Option (List Char) :=
  (pieces path).getLast?.filter fun name => name != ['.', '.']

def parent? (path : String) : Option String :=
  let head := (splitHead path.toList).1
  let ps := pieces path
  if ps.isEmpty then
    if head = ['.'] then some "" else none
  else some (String.ofList (head ++ List.intercalate ['/'] (solid ps.dropLast)))

/-- The paths above a path, nearest first, up to a given number. -/
def parents : (count : Nat) → (path : String) → List String
  | 0, _ => []
  | count + 1, path =>
    match parent? path with
    | some parent => parent :: parents count parent
    | none => []

def ancestors (path : String) : List String :=
  path :: parents path.length path

/-- A name up to its last dot. A dot at the beginning does not count. -/
def dropExtension (name : List Char) : List Char :=
  match name.reverse.dropWhile (· != '.') with
  | _ :: c :: cs => (c :: cs).reverse
  | _ => name

def stem (path : String) : String :=
  match fileName? path with
  | some name => String.ofList (dropExtension name)
  | none => "layout"

def join (directory name : String) : String :=
  if directory = "" ∨ directory.toList.getLast? = some '/' then directory ++ name
  else directory ++ "/" ++ name

/-- Where the code for a layout goes: into the given directory, or else next to the layout. -/
def target (directory : Option String) (input : String) : String :=
  join (directory.getD ((parent? input).getD "")) (stem input ++ ".kt")

def screenName (input : String) : String :=
  Kotlin.functionName (stem input)

end LayoutCompose.Path
