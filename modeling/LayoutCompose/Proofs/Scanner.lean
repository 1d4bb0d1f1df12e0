import LayoutCompose.Kotlin.Expression
import LayoutCompose.Proofs.Names
import Mathlib.Tactic.SplitIfs

/-!
Code as a scanner sees it.

The scanner tells code from string literals and from names in backticks, and keeps the brackets
that are open. It refuses a bracket that does not close the innermost one, a dollar sign by
itself in a string, a line that ends in a string, a name or a parenthesis, and so accepts a text
only if its literals are closed where they should be and its brackets match.

What the scanner makes of a piece of a line does not depend on the brackets around the piece.
Therefore the pieces of a line can be looked at one by one: those that leave no bracket open are
closed under all the ways in which lines are put together.
-/

namespace LayoutCompose.Kotlin

/-! ### The scanner -/

inductive Mode
  | code
  | string
  | escape
  | name
  deriving DecidableEq, Repr

/-- A scanner: what it is in, and the open brackets from the innermost on. -/
structure Scanner where
  mode : Mode := .code
  opened : List Char := []
  deriving DecidableEq, Repr

namespace Scanner

def isPair (left right : Char) : Bool :=
  (left == '(' && right == ')') || (left == '\x7b' && right == '\x7d')

def close (s : Scanner) (c : Char) : Option Scanner :=
  match s.opened with
  | left :: rest => if isPair left c then some { s with opened := rest } else none
  | [] => none

/-- Takes a character, unless it is not allowed here. -/
def step (s : Scanner) (c : Char) : Option Scanner :=
  match s.mode with
  | .code =>
    if c = '"' then some { s with mode := .string }
    else if c = '`' then some { s with mode := .name }
    else if c = '(' ∨ c = '\x7b' then some { s with opened := c :: s.opened }
    else if c = ')' ∨ c = '\x7d' then s.close c
    else if c = '\n' ∧ '(' ∈ s.opened then none
    else some s
  | .string =>
    if c = '\n' ∨ c = '$' then none
    else if c = '\\' then some { s with mode := .escape }
    else if c = '"' then some { s with mode := .code }
    else some s
  | .escape => if c = '\n' then none else some { s with mode := .string }
  | .name =>
    if c = '\n' then none
    else if c = '`' then some { s with mode := .code }
    else some s

/-- The characters that mean something in code. -/
def marks : List Char :=
  ['"', '`', '(', ')', '\x7b', '\x7d', '\n']

def scan (s : Scanner) (cs : List Char) : Option Scanner :=
  cs.foldlM step s

@[simp] theorem scan_nil (s : Scanner) : s.scan [] = some s := rfl

@[simp] theorem scan_cons (s : Scanner) (c : Char) (cs : List Char) :
    s.scan (c :: cs) = (s.step c).bind fun t => t.scan cs := rfl

theorem scan_append {s t : Scanner} {cs ds : List Char} (h : s.scan cs = some t) :
    s.scan (cs ++ ds) = t.scan ds := by
  have hscan : cs.foldlM step s = some t := h
  rw [scan, List.foldlM_append, hscan]
  rfl

theorem close_append {s t : Scanner} {c : Char} (rest : List Char) (h : s.close c = some t) :
    close ⟨s.mode, s.opened ++ rest⟩ c = some ⟨t.mode, t.opened ++ rest⟩ := by
  obtain ⟨mode, opened⟩ := s
  cases opened with
  | nil => exact nomatch h
  | cons left opened =>
      simp only [close] at h
      split at h
      · rename_i hpair
        obtain rfl := Option.some.inj h
        simp [close, hpair]
      · exact nomatch h

/-- A step within a line leaves alone the brackets that are further out. -/
theorem step_append {s t : Scanner} {c : Char} (rest : List Char) (hc : c ≠ '\n')
    (h : s.step c = some t) :
    step ⟨s.mode, s.opened ++ rest⟩ c = some ⟨t.mode, t.opened ++ rest⟩ := by
  obtain ⟨mode, opened⟩ := s
  cases mode with
  | code =>
      have hclose : ∀ u, close ⟨.code, opened⟩ c = some u →
          close ⟨.code, opened ++ rest⟩ c = some ⟨u.mode, u.opened ++ rest⟩ :=
        fun u hu => close_append rest hu
      simp only [step, hc, false_and, if_false] at h ⊢
      grind
  | string =>
      simp only [step] at h ⊢
      grind
  | escape =>
      simp only [step] at h ⊢
      grind
  | name =>
      simp only [step] at h ⊢
      grind

theorem scan_frame {s t : Scanner} {cs : List Char} (rest : List Char) (hcs : '\n' ∉ cs)
    (h : s.scan cs = some t) :
    scan ⟨s.mode, s.opened ++ rest⟩ cs = some ⟨t.mode, t.opened ++ rest⟩ := by
  induction cs generalizing s with
  | nil =>
      obtain rfl := Option.some.inj h
      rfl
  | cons c cs ih =>
      rw [List.mem_cons, not_or] at hcs
      rw [scan_cons, Option.bind_eq_some_iff] at h
      obtain ⟨u, hu, hscan⟩ := h
      rw [scan_cons, step_append rest (Ne.symm hcs.1) hu, Option.bind_some]
      exact ih hcs.2 hscan

end Scanner

/-- A text that a scanner can take from beginning to end. -/
def IsWellFormed (text : String) : Prop :=
  Scanner.scan {} text.toList = some {}

/-! ### Pieces of lines -/

/-- Characters within a line of code that turn the open brackets `before` them into those
`after` them. -/
def Turns (before after cs : List Char) : Prop :=
  '\n' ∉ cs ∧ Scanner.scan ⟨.code, before⟩ cs = some ⟨.code, after⟩

instance {before after cs : List Char} : Decidable (Turns before after cs) :=
  inferInstanceAs (Decidable ('\n' ∉ cs ∧ _))

/-- A piece of a line of code, which turns the open brackets `before` it into those `after` it. -/
structure Piece (before after : List Char) (s : String) : Prop where
  line : '\n' ∉ s.toList
  scan : Scanner.scan ⟨.code, before⟩ s.toList = some ⟨.code, after⟩

instance {before after : List Char} {s : String} : Decidable (Piece before after s) :=
  decidable_of_iff (Turns before after s.toList)
    ⟨fun h => ⟨h.1, h.2⟩, fun h => ⟨h.line, h.scan⟩⟩

theorem not_mem_of_all {p : Char → Bool} {cs : List Char} {c : Char} (hp : cs.all fun c => !p c)
    (h : p c = true) : c ∉ cs := by
  intro hc
  have hno := List.all_eq_true.mp hp c hc
  rw [h] at hno
  exact Bool.false_ne_true hno

/-- A piece of a line that leaves no bracket open and closes none of those around it. -/
abbrev Neutral (s : String) : Prop :=
  Piece [] [] s

namespace Piece

variable {a b c cs : List Char} {s t : String}

/-- A literal is checked by its characters. -/
theorem literal (h : Turns a b cs) : Piece a b (String.ofList cs) where
  line := by rw [String.toList_ofList]; exact h.1
  scan := by rw [String.toList_ofList]; exact h.2

theorem frame (h : Piece a b s) (rest : List Char) : Piece (a ++ rest) (b ++ rest) s :=
  ⟨h.line, Scanner.scan_frame rest h.line h.scan⟩

theorem append (hs : Piece a b s) (ht : Piece b c t) : Piece a c (s ++ t) where
  line := by simp [hs.line, ht.line]
  scan := by rw [String.toList_append, Scanner.scan_append hs.scan, ht.scan]

end Piece

namespace Neutral

variable {s t : String}

/-- Stands between any brackets. -/
theorem between (h : Neutral s) (opened : List Char) : Piece opened opened s :=
  h.frame opened

/-- What the text on the left opens, the text on the right closes. -/
theorem enclosed {left right : String} {opened : List Char} (h : Neutral s)
    (hleft : Piece [] opened left) (hright : Piece opened [] right) :
    Neutral (left ++ s ++ right) :=
  (hleft.append (h.between opened)).append hright

theorem within (opened : List Char) {left right : List Char} (hleft : Turns [] opened left)
    (h : Neutral s) (hright : Turns opened [] right) :
    Neutral (String.ofList left ++ s ++ String.ofList right) :=
  h.enclosed (.literal hleft) (.literal hright)

theorem empty : Neutral "" :=
  .literal (by decide)

theorem intercalate {sep : String} {l : List String} (hsep : Neutral sep)
    (h : ∀ s ∈ l, Neutral s) : Neutral (sep.intercalate l) := by
  induction l with
  | nil => exact empty
  | cons s l ih =>
      cases l with
      | nil => simpa using h
      | cons t l =>
          rw [String.intercalate_cons_cons]
          rw [List.forall_mem_cons] at h
          exact (h.1.append hsep).append (ih h.2)

/-- Characters that mean nothing to the scanner are passed over. -/
theorem of_plain (h : ∀ c ∈ s.toList, c ∉ Scanner.marks) : Neutral s := by
  have hscan (cs : List Char) (h : ∀ c ∈ cs, c ∉ Scanner.marks) :
      Scanner.scan {} cs = some {} := by
    induction cs with
    | nil => rfl
    | cons c cs ih =>
        rw [List.forall_mem_cons] at h
        have hstep : Scanner.step {} c = some {} := by
          have hmarks := h.1
          simp only [Scanner.marks, List.mem_cons, List.not_mem_nil, or_false, not_or] at hmarks
          simp [Scanner.step, hmarks]
        rw [Scanner.scan_cons, hstep]
        exact ih h.2
  refine ⟨fun hline => h _ hline (by decide), hscan _ h⟩

/-- Characters of a class without marks are passed over. -/
theorem of_all {p : Char → Bool} (hp : Scanner.marks.all fun c => !p c)
    (h : ∀ c ∈ s.toList, p c = true) : Neutral s :=
  of_plain fun c hc => not_mem_of_all hp (h c hc)

end Neutral

/-- A text that begins with something other than a space. -/
def Begins (s : String) : Prop :=
  ∃ c ∈ s.toList.head?, c ≠ ' '

theorem Begins.append {s : String} (h : Begins s) (t : String) : Begins (s ++ t) := by
  obtain ⟨c, hc, hne⟩ := h
  refine ⟨c, ?_, hne⟩
  rw [String.toList_append, List.head?_append, Option.mem_def.mp hc]
  rfl

structure IsLine (s : String) : Prop where
  neutral : Neutral s
  begins : Begins s

theorem IsLine.literal {c : Char} {cs : List Char} (h : Turns [] [] (c :: cs)) (hc : c ≠ ' ') :
    IsLine (String.ofList (c :: cs)) :=
  ⟨.literal h, c, by rw [String.toList_ofList]; rfl, hc⟩

theorem IsLine.append {s t : String} (hs : IsLine s) (ht : Neutral t) : IsLine (s ++ t) :=
  ⟨hs.neutral.append ht, hs.begins.append t⟩

theorem IsLine.block {s t : String} (hs : IsLine s) (ht : Neutral t) :
    IsLine (s ++ " \x7b " ++ t ++ " \x7d") :=
  ⟨ht.enclosed (hs.neutral.append (.literal (by decide : Turns [] ['\x7b'] _)))
      (.literal (by decide)),
    ((hs.begins.append _).append _).append _⟩

/-! ### Numbers -/

def isNumeric (c : Char) : Bool :=
  c.isDigit || c == '-' || c == '.'

theorem isDigit_of_mem_repr {n : Nat} {c : Char} (h : c ∈ n.repr.toList) : c.isDigit = true := by
  rw [Nat.toList_repr] at h
  exact Nat.isDigit_of_mem_toDigits (by decide) (by decide) h

theorem neutral_nat (n : Nat) : Neutral (toString n) :=
  Neutral.of_all (by decide) fun _ => isDigit_of_mem_repr

theorem neutral_int (i : Int) : Neutral (toString i) := by
  rw [Int.toString_eq_repr, Int.repr_eq_if]
  split
  · exact neutral_nat _
  · exact Piece.append (b := []) (.literal (by decide)) (neutral_nat _)

theorem neutral_positional (n : Nat) (k : Int) : Neutral (Shortest.positional n k) := by
  have hdigits : ∀ c ∈ Nat.toDigits 10 n, isNumeric c = true := by
    intro c hc
    have hdigit : c.isDigit = true := Nat.isDigit_of_mem_toDigits (by decide) (by decide) hc
    simp [isNumeric, hdigit]
  refine Neutral.of_all (p := isNumeric) (by decide) fun c hc => ?_
  unfold Shortest.positional at hc
  dsimp only at hc
  split at hc
  · rw [String.toList_ofList, List.mem_append, List.mem_replicate] at hc
    rcases hc with hc | ⟨-, rfl⟩
    · exact hdigits c hc
    · decide
  · have hpadded : ∀ c ∈ List.replicate ((-k).toNat + 1 - (Nat.toDigits 10 n).length) '0' ++
        Nat.toDigits 10 n, isNumeric c = true := by
      intro c hc
      rw [List.mem_append, List.mem_replicate] at hc
      rcases hc with ⟨-, rfl⟩ | hc
      · decide
      · exact hdigits c hc
    rw [String.toList_ofList, List.mem_append, List.mem_cons] at hc
    rcases hc with hc | rfl | hc
    · exact hpadded c (List.mem_of_mem_take hc)
    · decide
    · exact hpadded c (List.mem_of_mem_drop hc)

theorem neutral_shortest (x : Single) : Neutral (Shortest.text x) := by
  have hsign : Neutral (if x.negative then "-" else "") := by
    split <;> exact .literal (by decide)
  unfold Shortest.text
  dsimp only
  split
  · exact .literal (by decide)
  split
  · exact hsign.append (.literal (by decide))
  split
  · exact hsign.append (.literal (by decide))
  · exact hsign.append (neutral_positional _ _)

theorem neutral_numeral (x : Single) : Neutral (numeral x) := by
  unfold numeral
  split
  · exact neutral_int _
  · exact neutral_shortest x

theorem neutral_floatLiteral (x : Single) : Neutral (floatLiteral x) :=
  (neutral_numeral x).append (.literal (by decide))

theorem neutral_floatSpan (x y : Single) : Neutral (floatSpan x y) :=
  ((neutral_floatLiteral x).append (.literal (by decide))).append (neutral_floatLiteral y)

theorem isNameChar_of_mem_hexDigits {width n : Nat} {c : Char} (h : c ∈ hexDigits width n) :
    isNameChar c = true := by
  have hdigit : ∀ i : Fin 16, isNameChar (hexDigit i) = true := by decide
  induction width generalizing n with
  | zero => exact nomatch h
  | succ width ih =>
      rw [hexDigits, List.mem_append, List.mem_singleton] at h
      rcases h with h | rfl
      · exact ih h
      · exact hdigit ⟨n % 16, Nat.mod_lt n (by decide)⟩

theorem neutral_hexDigits (width n : Nat) : Neutral (String.ofList (hexDigits width n)) := by
  refine Neutral.of_all (p := isNameChar) (by decide) fun c hc => ?_
  rw [String.toList_ofList] at hc
  exact isNameChar_of_mem_hexDigits hc

/-! ### Strings -/

/-- The characters of names mean nothing to the scanner, in a string and between backticks as
well. -/
theorem scan_of_isNameChar {mode : Mode} {opened cs : List Char} (hmode : mode ≠ .escape)
    (h : ∀ c ∈ cs, isNameChar c = true) :
    Scanner.scan ⟨mode, opened⟩ cs = some ⟨mode, opened⟩ := by
  induction cs with
  | nil => rfl
  | cons c cs ih =>
      rw [List.forall_mem_cons] at h
      have hplain : c ∉ '$' :: '\\' :: Scanner.marks := not_mem_of_all (by decide) h.1
      have hstep : Scanner.step ⟨mode, opened⟩ c = some ⟨mode, opened⟩ := by
        simp only [Scanner.marks, List.mem_cons, List.not_mem_nil, or_false, not_or] at hplain
        cases mode with
        | escape => exact absurd rfl hmode
        | _ => simp [Scanner.step, hplain]
      rw [Scanner.scan_cons, hstep]
      exact ih h.2

/-- A character is escaped by a letter or itself, or by its code, or it needs no escape. -/
theorem escapeChar_cases (c : Char) :
    (∃ d, d ≠ '\n' ∧ escapeChar c = ['\\', d]) ∨
      escapeChar c = '\\' :: 'u' :: hexDigits 4 c.toNat ∨
        escapeChar c = [c] ∧ c ≠ '\\' ∧ c ≠ '"' ∧ c ≠ '\n' ∧ c ≠ '$' := by
  unfold escapeChar
  split_ifs with hslash hquote hline hreturn htab hdollar hcontrol
  · exact .inl ⟨'\\', by decide, rfl⟩
  · exact .inl ⟨'"', by decide, rfl⟩
  · exact .inl ⟨'n', by decide, rfl⟩
  · exact .inl ⟨'r', by decide, rfl⟩
  · exact .inl ⟨'t', by decide, rfl⟩
  · exact .inl ⟨'$', by decide, rfl⟩
  · exact .inr (.inl rfl)
  · exact .inr (.inr ⟨rfl, hslash, hquote, hline, hdollar⟩)

/-- An escaped character is taken without leaving the string. -/
@[simp] theorem scan_escapeChar (opened : List Char) (c : Char) :
    Scanner.scan ⟨.string, opened⟩ (escapeChar c) = some ⟨.string, opened⟩ := by
  rcases escapeChar_cases c with ⟨d, hd, hc⟩ | hc | ⟨hc, hne⟩
  · simp [hc, Scanner.step, hd]
  · have hopen : Scanner.scan ⟨.string, opened⟩ ['\\', 'u'] = some ⟨.string, opened⟩ := rfl
    have hdigits : ∀ d ∈ hexDigits 4 c.toNat, isNameChar d = true := fun d =>
      isNameChar_of_mem_hexDigits
    rw [hc]
    exact (Scanner.scan_append hopen).trans (scan_of_isNameChar (by decide) hdigits)
  · simp [hc, Scanner.step, hne]

theorem newline_not_mem_escapeChar (c : Char) : '\n' ∉ escapeChar c := by
  rcases escapeChar_cases c with ⟨d, hd, hc⟩ | hc | ⟨hc, hne⟩
  · simp [hc, Ne.symm hd]
  · have hhex : '\n' ∉ hexDigits 4 c.toNat := fun h =>
      absurd (isNameChar_of_mem_hexDigits h) (by decide)
    simp [hc, hhex]
  · simp [hc, Ne.symm hne.2.2.1]

@[simp] theorem scan_escaped (opened cs : List Char) :
    Scanner.scan ⟨.string, opened⟩ (cs.flatMap escapeChar) = some ⟨.string, opened⟩ := by
  induction cs with
  | nil => rfl
  | cons c cs ih => rw [List.flatMap_cons, Scanner.scan_append (scan_escapeChar opened c), ih]

/-- A string literal is taken as a whole, whatever the string. -/
theorem neutral_stringLiteral (s : String) : Neutral (stringLiteral s) := by
  constructor
  · simp [stringLiteral, newline_not_mem_escapeChar]
  · have hopen : Scanner.step {} '"' = some ⟨.string, []⟩ := rfl
    rw [stringLiteral, String.toList_ofList, List.cons_append, Scanner.scan_cons, hopen,
      Option.bind_some, Scanner.scan_append (scan_escaped [] s.toList)]
    rfl

/-! ### Names -/

theorem neutral_of_isName {s : String} (h : Text.isName s.toList = true) : Neutral s :=
  Neutral.of_all (by decide) (isNameChar_of_isName h)

theorem isLine_functionName (s : String) : IsLine (functionName s) := by
  have hname : Neutral (String.ofList ((Text.pascalCase s.toList).filter isNameChar)) := by
    refine Neutral.of_all (p := isNameChar) (by decide) fun c hc => ?_
    rw [String.toList_ofList] at hc
    exact (List.mem_filter.mp hc).2
  have hlayout : IsLine "Layout" := .literal (by decide) (by decide)
  unfold functionName
  dsimp only
  split
  · rename_i c cs hcs
    split
    · rename_i hletter
      refine ⟨hname, c, ?_, ?_⟩
      · rw [String.toList_ofList, hcs]
        rfl
      · rintro rfl
        exact absurd hletter (by decide)
    · exact hlayout.append hname
  · exact hlayout

/-- A name in backticks is taken as a whole. -/
theorem neutral_backticked {s : String} (h : ∀ c ∈ s.toList, isNameChar c = true) :
    Neutral ("`" ++ s ++ "`") := by
  have hopen : Scanner.scan {} "`".toList = some ⟨.name, []⟩ := by decide
  have hclose : Scanner.scan ⟨.name, []⟩ "`".toList = some {} := by decide
  constructor
  · have hline : '\n' ∉ s.toList := fun hmem => absurd (h _ hmem) (by decide)
    simp [hline]
  · rw [String.toList_append, String.toList_append, List.append_assoc,
      Scanner.scan_append hopen, Scanner.scan_append (scan_of_isNameChar (by decide) h), hclose]

theorem neutral_variableName {s : String} (h : Text.isName s.toList = true) :
    Neutral (variableName s) := by
  have hname : ∀ c ∈ (String.ofList (Text.camelCase s.toList)).toList, isNameChar c = true := by
    rw [String.toList_ofList]
    exact isNameChar_camelCase (isNameChar_of_isName h)
  unfold variableName
  dsimp only
  split
  · exact neutral_backticked hname
  · exact Neutral.of_all (by decide) hname

end LayoutCompose.Kotlin
