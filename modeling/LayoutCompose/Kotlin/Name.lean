import LayoutCompose.Text.Words

/-!
Names of Kotlin variables and functions made from names in markup.
-/

namespace LayoutCompose.Kotlin

/-- The words that Kotlin keeps for itself everywhere. -/
def keywords : List String :=
  ["as", "break", "class", "continue", "do", "else", "false", "for", "fun", "if", "in",
    "interface", "is", "null", "object", "package", "return", "super", "this", "throw", "true",
    "try", "typealias", "typeof", "val", "var", "when", "while"]

/-- The name of a variable. A keyword is put in backticks. -/
def variableName (raw : String) : String :=
  let name := String.ofList (Text.camelCase raw.toList)
  if keywords.contains name then "`" ++ name ++ "`" else name

def isNameChar (c : Char) : Bool :=
  c.isAlphanum || c == '_'

def isBackticked (name : String) : Bool :=
  2 < name.utf8ByteSize && name.toList.head? == some '`' && name.toList.getLast? == some '`'

/-- Whether a text can stand as the name of a variable: letters, digits and underscores of
ASCII, not beginning with a digit and not a lone underscore, or any text in backticks. -/
def isVariableName (name : String) : Bool :=
  isBackticked name ||
    match name.toList with
    | [] => false
    | c :: cs => (c.isAlpha || c == '_') && name != "_" && cs.all isNameChar

/-- The name of a function. What would not begin with a letter is put after `Layout`. -/
def functionName (raw : String) : String :=
  let name := (Text.pascalCase raw.toList).filter isNameChar
  match name with
  | c :: _ => if c.isAlpha then String.ofList name else "Layout" ++ String.ofList name
  | [] => "Layout"

end LayoutCompose.Kotlin
