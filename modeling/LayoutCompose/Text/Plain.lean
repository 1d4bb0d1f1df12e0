import LayoutCompose.Text.Blank

/-!
Text without what is meant for a terminal.

A terminal takes some characters as orders: control characters, and sequences that begin with the
escape character. Where there is no terminal they are left out, white space excepted. A sequence
that is not ended takes with it all that follows.
-/

namespace LayoutCompose.Text

/-- Where in a sequence of a terminal a text stands. -/
inductive Sequence
  /-- Outside of any. -/
  | none
  /-- After the escape character. -/
  | escape
  /-- After the escape character and some marks. -/
  | marked
  /-- Among the parameters of a control sequence. -/
  | control
  /-- In an operating system command. -/
  | command
  /-- Before the parameters of a device control string. -/
  | deviceStart
  /-- Among the parameters of a device control string. -/
  | deviceParameters
  /-- After the parameters of a device control string. -/
  | deviceMarks
  /-- In a string whose content does not matter. -/
  | string
  deriving DecidableEq, Repr

namespace Sequence

def isWithin (first last : Nat) (c : Char) : Bool :=
  first ≤ c.toNat && c.toNat ≤ last

/-- A final character, which ends a sequence of parameters. -/
def isFinal (c : Char) : Bool :=
  isWithin 0x40 0x7E c

def isMark (c : Char) : Bool :=
  isWithin 0x20 0x2F c

/-- Whether a character has, among its bytes, the one that ends a string. -/
def endsString (c : Char) : Bool :=
  0x80 ≤ c.toNat && (String.utf8EncodeChar c).contains 0x9C

/-- What the character after the escape character begins. -/
def opened (c : Char) : Sequence :=
  if c = '[' then control
  else if c = ']' then command
  else if c = 'P' then deviceStart
  else if c = 'X' ∨ c = '^' ∨ c = '_' then string
  else if isMark c then marked
  else if isWithin 0x30 0x7E c then none
  else escape

/-- Where a text stands after a character that no rule for all sequences takes. -/
def advance : Sequence → Char → Sequence
  | none, _ => none
  | escape, c => opened c
  | marked, c => if isWithin 0x30 0x7E c then none else marked
  | control, c => if isFinal c then none else control
  | command, c => if c.toNat = 7 then none else command
  | deviceStart, c =>
    if isMark c then deviceMarks
    else if c = ':' ∨ isFinal c then string
    else if isWithin 0x30 0x3F c then deviceParameters
    else deviceStart
  | deviceParameters, c =>
    if isMark c then deviceMarks
    else if c = ':' ∨ isWithin 0x3C 0x7E c then string
    else deviceParameters
  | deviceMarks, c => if isWithin 0x30 0x7E c then string else deviceMarks
  | string, c => if endsString c then none else string

/-- The sequences in which control characters keep their meaning. -/
def isOpenToControls : Sequence → Bool
  | none | escape | marked | control => true
  | _ => false

/-- Where a text stands after a character, and whether the character is kept. Outside of sequences
all is kept but control characters; there and in the sequences open to them, white space is kept
and ends the sequence. Two control characters break off any sequence, and the escape character
begins a new one. -/
def step (s : Sequence) (c : Char) : Sequence × Bool :=
  if c.toNat = 0x1B then (escape, false)
  else if c.toNat = 0x18 ∨ c.toNat = 0x1A then (none, false)
  else if c.toNat < 0x20 then
    if s.isOpenToControls then if isAsciiBlank c then (none, true) else (s, false)
    else (s.advance c, false)
  else if c.toNat = 0x7F then (s, false)
  else if s = none then (none, true)
  else (s.advance c, false)

end Sequence

def plainFrom : Sequence → List Char → List Char
  | _, [] => []
  | s, c :: cs =>
    let (next, kept) := s.step c
    if kept then c :: plainFrom next cs else plainFrom next cs

def plain (cs : List Char) : List Char :=
  plainFrom .none cs

end LayoutCompose.Text
