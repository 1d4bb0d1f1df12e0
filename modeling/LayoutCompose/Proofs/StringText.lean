import LayoutCompose.Proofs.Scanner
import LayoutCompose.Value.Color
import Mathlib.Algebra.Group.Nat.Defs

/-!
The text of string literals.

A literal is read from left to right: a backslash and what belongs to it stand for one character,
and all other characters stand for themselves. Each character of a text is written so that it is
read as itself, whatever follows it, and so a literal gives back the text that it was made of.
-/

namespace LayoutCompose.Kotlin

/-! ### Reading literals -/

def shortEscape? : Char → Option Char
  | '\\' => some '\\'
  | '"' => some '"'
  | 'n' => some '\n'
  | 'r' => some '\r'
  | 't' => some '\t'
  | '$' => some '$'
  | _ => none

/-- The character with a code in hexadecimal digits. Half of a pair is no character. -/
def charOfHex? (cs : List Char) : Option Char :=
  if cs.all Color.isHexDigit && decide (Color.ofHexDigits cs).isValidChar then
    some (Char.ofNat (Color.ofHexDigits cs))
  else none

/-- The text that stands between the quotes of a literal. A quote or a dollar sign by itself is
refused, since the one ends the literal and the other begins a template, and so are characters that
cannot stand in a line. -/
def decode? : List Char → Option (List Char)
  | [] => some []
  | '\\' :: 'u' :: h₃ :: h₂ :: h₁ :: h₀ :: cs =>
    (charOfHex? [h₃, h₂, h₁, h₀]).bind fun c => (decode? cs).map (c :: ·)
  | '\\' :: e :: cs => (shortEscape? e).bind fun c => (decode? cs).map (c :: ·)
  | c :: cs =>
    if c = '\\' ∨ c = '"' ∨ c = '$' ∨ Text.isControl c then none
    else (decode? cs).map (c :: ·)

/-- The characters that no backslash in front of them escapes, without those backslashes. -/
def unescaped : List Char → List Char
  | [] => []
  | '\\' :: _ :: cs => unescaped cs
  | c :: cs => c :: unescaped cs

/-! ### Hexadecimal digits -/

theorem hexValue_hexDigit {n : Nat} (h : n < 16) :
    Color.isHexDigit (hexDigit n) = true ∧ Color.hexValue (hexDigit n) = n := by
  have hall : ∀ i : Fin 16, Color.isHexDigit (hexDigit i) = true ∧
      Color.hexValue (hexDigit i) = i := by decide
  exact hall ⟨n, h⟩

/-- What holds of the sixteen digits holds of all digits that are written. -/
theorem all_hexDigits {p : Char → Bool} (hp : ∀ i : Fin 16, p (hexDigit i) = true)
    (width n : Nat) : (hexDigits width n).all p = true := by
  induction width generalizing n with
  | zero => rfl
  | succ width ih =>
      simp [hexDigits, ih, hp ⟨n % 16, Nat.mod_lt n (by decide)⟩]

/-- The digits that are written have the value of the number, as far as they reach. -/
@[simp] theorem ofHexDigits_hexDigits (width n : Nat) :
    Color.ofHexDigits (hexDigits width n) = n % 16 ^ width := by
  induction width generalizing n with
  | zero => simp [hexDigits, Color.ofHexDigits, Nat.mod_one]
  | succ width ih =>
      have hlast := (hexValue_hexDigit (Nat.mod_lt n (by decide : 0 < 16))).2
      rw [hexDigits, Color.ofHexDigits, List.foldl_append, ← Color.ofHexDigits, ih, List.foldl_cons,
        List.foldl_nil, hlast, Nat.pow_succ', Nat.mod_mul, Nat.add_comm]

theorem charOfHex?_hexDigits {c : Char} (h : c.toNat < 16 ^ 4) :
    charOfHex? (hexDigits 4 c.toNat) = some c := by
  have hcode : Color.ofHexDigits (hexDigits 4 c.toNat) = c.toNat := by
    rw [ofHexDigits_hexDigits, Nat.mod_eq_of_lt h]
  have hvalid : c.toNat.isValidChar := c.valid
  have hdigits : (hexDigits 4 c.toNat).all Color.isHexDigit = true :=
    all_hexDigits (fun i => (hexValue_hexDigit i.isLt).1) 4 c.toNat
  simp [charOfHex?, hdigits, hcode, hvalid, Char.ofNat_toNat]

/-! ### One character -/

theorem toNat_lt_of_isControl {c : Char} (h : Text.isControl c = true) : c.toNat < 16 ^ 4 := by
  simp only [Text.isControl, Bool.or_eq_true, Bool.and_eq_true, decide_eq_true_eq] at h
  omega

theorem decode?_of_plain {c : Char} {rest : List Char} (hslash : c ≠ '\\') (hquote : c ≠ '"')
    (hdollar : c ≠ '$') (hcontrol : Text.isControl c = false) :
    decode? (c :: rest) = (decode? rest).map (c :: ·) := by
  rw [decode?.eq_4]
  · simp [hslash, hquote, hdollar, hcontrol]
  · simp [hslash]
  · simp [hslash]

/-- A character is read as itself where it is written for a literal. -/
@[simp] theorem decode?_escapeChar (c : Char) (rest : List Char) :
    decode? (escapeChar c ++ rest) = (decode? rest).map (c :: ·) := by
  unfold escapeChar
  split_ifs with hslash hquote hline hreturn htab hdollar hcontrol
  · subst hslash
    rfl
  · subst hquote
    rfl
  · subst hline
    rfl
  · subst hreturn
    rfl
  · subst htab
    rfl
  · subst hdollar
    rfl
  · have hhex := charOfHex?_hexDigits (toNat_lt_of_isControl hcontrol)
    change (charOfHex? (hexDigits 4 c.toNat)).bind (fun c => (decode? rest).map (c :: ·)) = _
    rw [hhex, Option.bind_some]
  · exact decode?_of_plain hslash hquote hdollar (eq_false_of_ne_true hcontrol)

theorem isControl_escapeChar (c : Char) : ∀ d ∈ escapeChar c, Text.isControl d = false := by
  have hall : (escapeChar c).all (fun d => !Text.isControl d) = true := by
    unfold escapeChar
    split_ifs with hslash hquote hline hreturn htab hdollar hcontrol
    · rfl
    · rfl
    · rfl
    · rfl
    · rfl
    · rfl
    · have hdigits : (hexDigits 4 c.toNat).all (fun d => !Text.isControl d) = true :=
        all_hexDigits (by decide) 4 c.toNat
      rw [List.all_cons, List.all_cons, hdigits]
      rfl
    · simp [hcontrol]
  simpa using hall

theorem unescaped_append {cs rest : List Char} (h : '\\' ∉ cs) :
    unescaped (cs ++ rest) = cs ++ unescaped rest := by
  induction cs with
  | nil => rfl
  | cons c cs ih =>
      rw [List.mem_cons, not_or] at h
      rw [List.cons_append, unescaped.eq_3 _ _ (by simp [Ne.symm h.1]), ih h.2, List.cons_append]

/-- A quote or a dollar sign that is part of a text stands behind a backslash. -/
theorem not_mem_unescaped_escapeChar {mark c : Char} {rest : List Char}
    (hmark : mark = '"' ∨ mark = '$') (hrest : mark ∉ unescaped rest) :
    mark ∉ unescaped (escapeChar c ++ rest) := by
  rcases escapeChar_cases c with ⟨d, -, hc⟩ | hc | ⟨hc, hslash, hquote, -, hdollar⟩
  · rw [hc]
    exact hrest
  · have hname : ∀ d ∈ hexDigits 4 c.toNat, isNameChar d = true := fun d =>
      isNameChar_of_mem_hexDigits
    have hslash : '\\' ∉ hexDigits 4 c.toNat := fun h => absurd (hname _ h) (by decide)
    have hdigits : mark ∉ hexDigits 4 c.toNat := by
      intro h
      rcases hmark with rfl | rfl
      · exact absurd (hname _ h) (by decide)
      · exact absurd (hname _ h) (by decide)
    rw [hc]
    change mark ∉ unescaped (hexDigits 4 c.toNat ++ rest)
    rw [unescaped_append hslash, List.mem_append, not_or]
    exact ⟨hdigits, hrest⟩
  · have hne : mark ≠ c := by
      rcases hmark with rfl | rfl
      · exact Ne.symm hquote
      · exact Ne.symm hdollar
    rw [hc, unescaped_append (by simp [Ne.symm hslash]), List.mem_append, not_or]
    exact ⟨by simpa using hne, hrest⟩

/-! ### Literals -/

@[simp] theorem decode?_escaped (cs : List Char) : decode? (cs.flatMap escapeChar) = some cs := by
  induction cs with
  | nil => rfl
  | cons c cs ih => rw [List.flatMap_cons, decode?_escapeChar, ih, Option.map_some]

theorem not_mem_unescaped_escaped {mark : Char} (hmark : mark = '"' ∨ mark = '$')
    (cs : List Char) : mark ∉ unescaped (cs.flatMap escapeChar) := by
  induction cs with
  | nil => exact List.not_mem_nil
  | cons c cs ih =>
      rw [List.flatMap_cons]
      exact not_mem_unescaped_escapeChar hmark ih

/-- A text is written between two quotes, without a character that cannot stand in a line and
without a quote or a dollar sign by itself, and what stands there is read as that text. So no two
texts have the same literal. -/
theorem stringLiteral_decodes (s : String) :
    (∃ inside, (stringLiteral s).toList = '"' :: inside ++ ['"'] ∧
      (∀ c ∈ inside, Text.isControl c = false) ∧
      '"' ∉ unescaped inside ∧ '$' ∉ unescaped inside ∧ decode? inside = some s.toList) ∧
    ∀ t, stringLiteral t = stringLiteral s → t = s := by
  constructor
  · refine ⟨s.toList.flatMap escapeChar, ?_, ?_, ?_, ?_, decode?_escaped s.toList⟩
    · rw [stringLiteral, String.toList_ofList]
    · intro c hc
      obtain ⟨d, -, hd⟩ := List.mem_flatMap.mp hc
      exact isControl_escapeChar d c hd
    · exact not_mem_unescaped_escaped (.inl rfl) s.toList
    · exact not_mem_unescaped_escaped (.inr rfl) s.toList
  · intro t h
    have hinside : t.toList.flatMap escapeChar = s.toList.flatMap escapeChar := by
      simpa [stringLiteral] using congrArg String.toList h
    have hdecoded := congrArg decode? hinside
    rw [decode?_escaped, decode?_escaped, Option.some.injEq] at hdecoded
    exact String.toList_injective hdecoded

end LayoutCompose.Kotlin
