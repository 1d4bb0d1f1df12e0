import LayoutCompose.Text.Blank

/-!
References to characters in the value of an attribute, from `&` to `;`.
-/

namespace LayoutCompose.Markup

inductive CharFault
  | sign
  | empty
  | invalidDigit
  | tooLarge
  | zero
  | noCharacter (code : Nat)
  deriving DecidableEq, Repr

def CharFault.detail : CharFault → String
  | sign => "unexpected number sign"
  | empty => "cannot parse integer from empty string"
  | invalidDigit => "invalid digit found in string"
  | tooLarge => "number too large to fit in target type"
  | zero => "0x0 character is not permitted in XML"
  | noCharacter code => "`" ++ toString code ++ "` is not a valid codepoint"

/-- Why the references in a value cannot be decoded. Offsets are in bytes. -/
inductive EntityFault
  | unterminated (start stop : Nat)
  | unrecognized (start stop : Nat) (name : String)
  | character (fault : CharFault)
  deriving DecidableEq, Repr

def EntityFault.message : EntityFault → String
  | unterminated start stop =>
    "Error while escaping character at range " ++ toString start ++ ".." ++ toString stop ++
      ": Cannot find ';' after '&'"
  | unrecognized start stop name =>
    "at " ++ toString start ++ ".." ++ toString stop ++ ": unrecognized entity `" ++ name ++ "`"
  | character fault => "invalid character reference: " ++ fault.detail

/-- The value of a digit below 16, letters in either case. -/
def digitValue? (c : Char) : Option Nat :=
  if c.isDigit then some (c.toNat - 48)
  else if 'a' ≤ c ∧ c ≤ 'f' then some (c.toNat - 87)
  else if 'A' ≤ c ∧ c ≤ 'F' then some (c.toNat - 55)
  else none

/-- Reads digits of a base, keeping the number within 32 bits at each of them. -/
def readDigits (base : Nat) : (n : Nat) → List Char → Except CharFault Nat
  | n, [] => .ok n
  | n, c :: cs =>
    match (digitValue? c).filter (· < base) with
    | none => .error .invalidDigit
    | some d =>
      if base * n + d < 4294967296 then readDigits base (base * n + d) cs else .error .tooLarge

def readCode (base : Nat) : List Char → Except CharFault Nat
  | [] => .error .empty
  | '+' :: _ => .error .sign
  | '-' :: _ => .error .sign
  | cs => readDigits base 0 cs

/-- The character with a given code, unless it is zero or no character has it. -/
def charOfCode (code : Nat) : Except CharFault Char :=
  if code = 0 then .error .zero
  else if code.isValidChar then .ok (Char.ofNat code)
  else .error (.noCharacter code)

def charOfReference : List Char → Except CharFault Char
  | 'x' :: cs => (readCode 16 cs).bind charOfCode
  | cs => (readCode 10 cs).bind charOfCode

def namedCharacters : List (String × Char) :=
  [("lt", '<'), ("gt", '>'), ("amp", '&'), ("apos", '\''), ("quot", '"')]

/-- The character that a reference stands for. Its name begins at the byte `start`. -/
def charOfName (start : Nat) (name : List Char) : Except EntityFault Char :=
  match name with
  | '#' :: number => (charOfReference number).mapError .character
  | _ =>
    match namedCharacters.lookup (String.ofList name) with
    | some c => .ok c
    | none =>
      .error (.unrecognized start (start + Text.byteLength name) (String.ofList name))

def isReferenceEnd (c : Char) : Bool :=
  c == ';' || c == '&'

/-- Decodes the references in the rest of a value of `length` bytes. -/
def decodeFrom (length : Nat) : List Char → Except EntityFault (List Char)
  | [] => .ok []
  | c :: cs =>
    if c = '&' then
      match _h : cs.dropWhile fun c => !isReferenceEnd c with
      | ';' :: rest =>
        match charOfName (length - Text.byteLength cs)
            (cs.takeWhile fun c => !isReferenceEnd c) with
        | .ok d => (decodeFrom length rest).map (d :: ·)
        | .error e => .error e
      | _ => .error (.unterminated (length - Text.byteLength (c :: cs)) length)
    else (decodeFrom length cs).map (c :: ·)
  termination_by cs => cs.length
  decreasing_by
    · have hle : (cs.dropWhile fun c => !isReferenceEnd c).length ≤ cs.length :=
        (List.dropWhile_sublist _).length_le
      simp only [_h, List.length_cons] at hle ⊢
      omega
    · simp

def decode (value : List Char) : Except EntityFault (List Char) :=
  decodeFrom (Text.byteLength value) value

end LayoutCompose.Markup
