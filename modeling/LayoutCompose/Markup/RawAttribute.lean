import LayoutCompose.Markup.Event

/-!
The attributes of a tag as they are written: a key, an equals sign and a value in quotes.
-/

namespace LayoutCompose.Markup

/-- A flaw in the attributes of a tag, at an offset in bytes from the beginning of its name. -/
inductive AttributeFault
  | missingEquals (position : Nat)
  | missingValue (position : Nat)
  | unquoted (position : Nat)
  | unclosedQuote (position : Nat) (quote : Char)
  | duplicated (position previous : Nat)
  deriving DecidableEq, Repr

def AttributeFault.position : AttributeFault → Nat
  | missingEquals p | missingValue p | unquoted p | unclosedQuote p _ | duplicated p _ => p

def AttributeFault.detail : AttributeFault → String
  | missingEquals _ => "attribute key must be directly followed by `=` or space"
  | missingValue _ => "`=` must be followed by an attribute value"
  | unquoted _ => "attribute value must be enclosed in `\"` or `'`"
  | unclosedQuote _ quote =>
    "missing closing quote `" ++ quote.toString ++ "` in attribute value"
  | duplicated _ previous =>
    "duplicated attribute, previous declaration at position " ++ toString previous

def AttributeFault.message (f : AttributeFault) : String :=
  "position " ++ toString f.position ++ ": " ++ f.detail

structure RawAttribute where
  position : Nat
  key : List Char
  value : List Char
  deriving DecidableEq, Repr

def isKeyEnd (c : Char) : Bool :=
  c == '=' || isSpace c

/-- The value behind an equals sign and the rest after it. The tag has `length` bytes. -/
def readValue (length : Nat) (cs : List Char) :
    Except AttributeFault (List Char × List Char) :=
  match cs.dropWhile isSpace with
  | [] => .error (.missingValue length)
  | quote :: cs =>
    if quote = '"' ∨ quote = '\'' then
      match cs.dropWhile (· != quote) with
      | [] => .error (.unclosedQuote length quote)
      | _ :: rest => .ok (cs.takeWhile (· != quote), rest)
    else .error (.unquoted (length - Text.byteLength (quote :: cs)))

/-- The attribute whose key begins with `c`, whatever character that is, and the rest after
it. A key may not be one of those `seen`, which are listed with their positions. -/
def readAttribute (length : Nat) (seen : List (List Char × Nat)) (c : Char) (cs : List Char) :
    Except AttributeFault (RawAttribute × List Char) :=
  let position := length - Text.byteLength (c :: cs)
  let key := c :: cs.takeWhile fun c => !isKeyEnd c
  match (cs.dropWhile fun c => !isKeyEnd c).dropWhile isSpace with
  | '=' :: cs =>
    match seen.lookup key with
    | some previous => .error (.duplicated position previous)
    | none => (readValue length cs).map fun (value, rest) => (⟨position, key, value⟩, rest)
  | cs => .error (.missingEquals (length - Text.byteLength cs))

theorem length_of_readValue {length : Nat} {cs value rest : List Char}
    (h : readValue length cs = .ok (value, rest)) : rest.length ≤ cs.length := by
  unfold readValue at h
  have hspace : (cs.dropWhile isSpace).length ≤ cs.length :=
    (List.dropWhile_sublist _).length_le
  split at h
  · simp at h
  · rename_i quote ds hds
    split at h
    · split at h
      · simp at h
      · rename_i e es hes
        have hquote : (ds.dropWhile (· != quote)).length ≤ ds.length :=
          (List.dropWhile_sublist _).length_le
        simp only [Except.ok.injEq, Prod.mk.injEq] at h
        rw [← h.2]
        simp only [hds, hes, List.length_cons] at hspace hquote
        omega
    · simp at h

theorem length_of_readAttribute {length : Nat} {seen : List (List Char × Nat)} {c : Char}
    {cs rest : List Char} {a : RawAttribute}
    (h : readAttribute length seen c cs = .ok (a, rest)) : rest.length ≤ cs.length := by
  unfold readAttribute at h
  have hkey : ((cs.dropWhile fun c => !isKeyEnd c).dropWhile isSpace).length ≤ cs.length :=
    ((List.dropWhile_sublist _).trans (List.dropWhile_sublist _)).length_le
  simp only at h
  split at h
  · rename_i ds hds
    split at h
    · simp at h
    · cases hv : readValue length ds with
      | error e => simp [hv, Except.map] at h
      | ok p =>
          obtain ⟨value, rest'⟩ := p
          have := length_of_readValue hv
          simp only [hv, Except.map, Except.ok.injEq, Prod.mk.injEq] at h
          rw [← h.2]
          simp only [hds, List.length_cons] at hkey
          omega
  · simp at h

/-- The attributes in the rest of a tag of `length` bytes, up to the first flaw. -/
def attributesFrom (length : Nat) (seen : List (List Char × Nat)) (cs : List Char) :
    Run AttributeFault RawAttribute :=
  match _hc : cs.dropWhile isSpace with
  | [] => .nil
  | c :: ds =>
    match _h : readAttribute length seen c ds with
    | .ok (a, rest) => .cons a (attributesFrom length ((a.key, a.position) :: seen) rest)
    | .error e => .fail e
  termination_by cs.length
  decreasing_by
    have h₁ := length_of_readAttribute _h
    have h₂ : (cs.dropWhile isSpace).length ≤ cs.length :=
      (List.dropWhile_sublist _).length_le
    simp only [_hc, List.length_cons] at h₂
    omega

def Tag.attributes (tag : Tag) : Run AttributeFault RawAttribute :=
  attributesFrom (Text.byteLength (tag.name ++ tag.rest)) [] tag.rest

end LayoutCompose.Markup
