import LayoutCompose.Text.Marks
import LayoutCompose.Text.Unprintable

/-!
A text in double quotes, with everything that would not be seen written as an escape.
-/

namespace LayoutCompose.Text

/-- The sound marks of halfwidth Katakana, which extend the letter before them but are letters
with a place of their own. -/
def isSoundMark (c : Char) : Bool :=
  c.toNat == 0xFF9E || c.toNat == 0xFF9F

/-- Whether a character would not be seen, or would change the one before it. -/
def isObscure (c : Char) : Bool :=
  (isExtending c && !isSoundMark c) || isUnprintable c

def quoteChar (c : Char) : List Char :=
  if c = '"' then ['\\', '"']
  else if c = '\\' then ['\\', '\\']
  else if c = '\n' then ['\\', 'n']
  else if c = '\r' then ['\\', 'r']
  else if c = '\t' then ['\\', 't']
  else if c.toNat = 0 then ['\\', '0']
  else if isObscure c then
    '\\' :: 'u' :: '\x7b' :: Nat.toDigits 16 c.toNat ++ ['\x7d']
  else [c]

def quoted (s : String) : String :=
  String.ofList ('"' :: s.toList.flatMap quoteChar ++ ['"'])

end LayoutCompose.Text
