import LayoutCompose.Number.Shortest
import LayoutCompose.Text.Blank

/-!
Numbers and strings as Kotlin writes them.
-/

namespace LayoutCompose.Kotlin

/-- A number in decimal, without a point where it is a whole number of less than ten digits. -/
def numeral (x : Single) : String :=
  if x.isWhole && x.magnitude < 1000000000 * Single.unitsOne then toString x.toInt
  else Shortest.text x

def floatLiteral (x : Single) : String :=
  numeral x ++ "f"

def floatSpan (x y : Single) : String :=
  floatLiteral x ++ ".." ++ floatLiteral y

def hexDigit (n : Nat) : Char :=
  if n < 10 then Char.ofNat (48 + n) else Char.ofNat (55 + n)

/-- The last `width` hexadecimal digits of a number. -/
def hexDigits : (width n : Nat) → List Char
  | 0, _ => []
  | width + 1, n => hexDigits width (n / 16) ++ [hexDigit (n % 16)]

/-- A character as it stands in a string literal. The dollar sign would begin a template. -/
def escapeChar (c : Char) : List Char :=
  if c = '\\' then ['\\', '\\']
  else if c = '"' then ['\\', '"']
  else if c = '\n' then ['\\', 'n']
  else if c = '\r' then ['\\', 'r']
  else if c = '\t' then ['\\', 't']
  else if c = '$' then ['\\', '$']
  else if Text.isControl c then '\\' :: 'u' :: hexDigits 4 c.toNat
  else [c]

def stringLiteral (s : String) : String :=
  String.ofList ('"' :: s.toList.flatMap escapeChar ++ ['"'])

end LayoutCompose.Kotlin
