import LayoutCompose.Number.Decimal
import LayoutCompose.Text.Blank
import LayoutCompose.Value.Expectation

/-!
Values without structure: numbers, counts and truth values.
-/

namespace LayoutCompose

/-- A text without the white space around it, as a string to be compared with keywords. -/
def trimmed (s : String) : String :=
  String.ofList (Text.trim s.toList)

/-- Reads a finite decimal number. A leading plus sign is refused. -/
def Single.read (s : String) : Except Expectation Single :=
  let cs := Text.trim s.toList
  match Decimal.read? cs with
  | some d =>
    if d.toSingle.isFinite && cs.head? != some '+' then .ok d.toSingle else .error .number
  | none => .error .number

def Single.readNonNegative (s : String) : Except Expectation Single :=
  match Single.read s with
  | .ok x => if Single.zero.le x then .ok x else .error .nonNegative
  | .error _ => .error .nonNegative

/-- Reads a whole number of at most 32 bits, with an optional plus sign. -/
def readCount (s : String) : Except Expectation Nat :=
  let ds := Text.dropHead ['+'] (Text.trim s.toList)
  if !ds.isEmpty && ds.all Char.isDigit && Decimal.ofDigits ds < 4294967296 then
    .ok (Decimal.ofDigits ds)
  else .error .integer

/-- The value that a table gives to a keyword, white space around it aside. -/
def readKeyword {α : Type} (table : List (String × α)) (e : Expectation) (s : String) :
    Except Expectation α :=
  match table.lookup (trimmed s) with
  | some a => .ok a
  | none => .error e

def readBool (s : String) : Except Expectation Bool :=
  readKeyword [("true", true), ("false", false)] .boolean s

end LayoutCompose
