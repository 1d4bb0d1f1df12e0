/-!
Character classes used by the grammars, and the removal of white space at the ends of a text.
-/

namespace LayoutCompose.Text

/-- White space by the Unicode property of that name. -/
def isBlank (c : Char) : Bool :=
  let n := c.toNat
  (9 ≤ n && n ≤ 13) || n == 32 || n == 0x85 || n == 0xA0 || n == 0x1680 ||
    (0x2000 ≤ n && n ≤ 0x200A) || n == 0x2028 || n == 0x2029 || n == 0x202F ||
    n == 0x205F || n == 0x3000

/-- White space within ASCII: space, tab, line feed, form feed and carriage return. -/
def isAsciiBlank (c : Char) : Bool :=
  c == ' ' || c == '\t' || c == '\n' || c == '\x0c' || c == '\r'

def isControl (c : Char) : Bool :=
  c.toNat < 0x20 || (0x7F ≤ c.toNat && c.toNat ≤ 0x9F)

def trimStart (cs : List Char) : List Char :=
  cs.dropWhile isBlank

def trimEnd (cs : List Char) : List Char :=
  (cs.reverse.dropWhile isBlank).reverse

def trim (cs : List Char) : List Char :=
  trimEnd (trimStart cs)

/-- The rest of `cs` after `head`, if it begins so. -/
def stripHead? : (head cs : List Char) → Option (List Char)
  | [], cs => some cs
  | _ :: _, [] => none
  | h :: head, c :: cs => if h = c then stripHead? head cs else none

/-- The rest of `cs` after `head`, or all of it if it does not begin so. -/
def dropHead (head cs : List Char) : List Char :=
  (stripHead? head cs).getD cs

/-- What stands before and after the first place where `mark` begins. -/
def cut? (mark : List Char) : List Char → Option (List Char × List Char)
  | [] => if mark = [] then some ([], []) else none
  | c :: cs =>
    match stripHead? mark (c :: cs) with
    | some rest => some ([], rest)
    | none => (cut? mark cs).map fun (before, after) => (c :: before, after)

theorem length_of_stripHead? {head cs rest : List Char} (h : stripHead? head cs = some rest) :
    rest.length ≤ cs.length := by
  fun_induction stripHead? head cs with
  | case1 cs => simp_all
  | case2 => simp at h
  | case3 head c cs ih => exact Nat.le_succ_of_le (ih h)
  | case4 => simp at h

theorem length_of_cut? {mark cs before after : List Char}
    (h : cut? mark cs = some (before, after)) : after.length ≤ cs.length := by
  induction cs generalizing before with
  | nil =>
      simp only [cut?] at h
      split at h <;> simp_all
  | cons c cs ih =>
      simp only [cut?] at h
      split at h
      · rename_i rest hrest
        simp only [Option.some.injEq, Prod.mk.injEq] at h
        exact h.2 ▸ length_of_stripHead? hrest
      · simp only [Option.map_eq_some_iff, Prod.mk.injEq] at h
        obtain ⟨⟨b, a⟩, hcut, -, rfl⟩ := h
        exact Nat.le_succ_of_le (ih hcut)

/-- The pieces between the occurrences of `mark`; there is always at least one. -/
def pieces (mark : Char) : List Char → List (List Char)
  | [] => [[]]
  | c :: cs =>
    if c = mark then [] :: pieces mark cs
    else
      match pieces mark cs with
      | [] => [[c]]
      | piece :: rest => (c :: piece) :: rest

/-- A name of a resource: a letter or underscore, then letters, digits and underscores, all of
them ASCII. -/
def isName : List Char → Bool
  | [] => false
  | c :: cs => (c.isAlpha || c == '_') && cs.all fun d => d.isAlphanum || d == '_'

def byteLength (cs : List Char) : Nat :=
  cs.foldr (fun c n => c.utf8Size + n) 0

end LayoutCompose.Text
