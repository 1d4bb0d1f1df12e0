import LayoutCompose.Proofs.ReadValues
import LayoutCompose.Proofs.ReferenceText
import LayoutCompose.Proofs.StringText
import Mathlib.Data.Nat.Digits.Defs

/-!
The text of colours.

In markup a colour is written in three, four, six or eight hexadecimal digits, and in code it has a
name or is written in eight. Each of these texts stands for one word of 32 bits. The word that is
read from markup is the one that its digits make up, once they are completed to eight, and what is
written for a word in code stands for that word again.
-/

namespace LayoutCompose

theorem ThemeColor.property_injective {t u : ThemeColor} (h : t.property = u.property) :
    t = u := by
  have hfind (t : ThemeColor) : (attributes.map Prod.snd).find?
      (fun u => u.property == t.property) = some t := by
    cases t <;> rfl
  have ht := hfind t
  rw [h, hfind u] at ht
  exact (Option.some.inj ht).symm

theorem Reference.IsOf.wellFormed {r : Reference} (h : r.IsOf ["color"]) : r.WellFormed := by
  have hkind : r.kind = "color" := List.mem_singleton.mp h.kind
  refine ⟨?_, ?_, isName_iff.mp h.name⟩
  · rw [hkind]
    decide
  · rw [hkind]
    exact List.all_eq_true.mp rfl

namespace Color

/-! ### Words in digits -/

/-- The value of a hexadecimal digit is its place among the sixteen, in small letters or in
capitals. -/
def digit? (c : Char) : Option Nat :=
  "0123456789abcdef".toList.idxOf? c <|> "0123456789ABCDEF".toList.idxOf? c

/-- The values of the characters of a text, if all of them are digits. -/
def digits? (cs : List Char) : Option (List Nat) :=
  cs.mapM digit?

/-- All eight digits of a word. In the short forms every digit stands for two, and where there are
no digits for alpha, both of them are the greatest. -/
def completed (ns : List Nat) : List Nat :=
  match ns.length with
  | 3 => 15 :: 15 :: ns.flatMap fun n => [n, n]
  | 4 => ns.flatMap fun n => [n, n]
  | 6 => 15 :: 15 :: ns
  | _ => ns

def widths : List Nat := [3, 4, 6, 8]

theorem toNat_lt_of_isHexDigit {c : Char} (h : isHexDigit c = true) : c.toNat < 128 := by
  change ((decide ('0'.val ≤ c.val) && decide (c.val ≤ '9'.val)) ||
    (decide ('a'.val ≤ c.val) && decide (c.val ≤ 'f'.val)) ||
    (decide ('A'.val ≤ c.val) && decide (c.val ≤ 'F'.val))) = true at h
  simp only [Bool.or_eq_true, Bool.and_eq_true, decide_eq_true_eq, UInt32.le_iff_toNat_le] at h
  rcases h with (⟨-, h⟩ | ⟨-, h⟩) | ⟨-, h⟩
  · exact Nat.lt_of_le_of_lt h (by decide)
  · exact Nat.lt_of_le_of_lt h (by decide)
  · exact Nat.lt_of_le_of_lt h (by decide)

theorem digit?_eq (c : Char) :
    digit? c = if isHexDigit c then some (hexValue c) else none := by
  by_cases hascii : c.toNat < 128
  · have hall : ∀ n : Fin 128, digit? (Char.ofNat n) =
        if isHexDigit (Char.ofNat n) then some (hexValue (Char.ofNat n)) else none := by
      decide +kernel
    obtain ⟨n, rfl⟩ := Text.exists_ofNat hascii
    exact hall n
  · have hletters {alphabet : List Char}
        (halphabet : alphabet.all (fun d => d.toNat < 128) = true) : alphabet.idxOf? c = none := by
      rw [List.idxOf?_eq_none_iff]
      intro hmem
      exact hascii (of_decide_eq_true (List.all_eq_true.mp halphabet c hmem))
    have hc : ¬ isHexDigit c = true := fun h => hascii (toNat_lt_of_isHexDigit h)
    rw [if_neg hc, digit?, hletters rfl, hletters rfl]
    rfl

@[simp] theorem digit?_toLower (c : Char) : digit? c.toLower = digit? c := by
  by_cases hascii : c.toNat < 128
  · have hall : ∀ n : Fin 128, digit? (Char.ofNat n).toLower = digit? (Char.ofNat n) := by
      decide +kernel
    obtain ⟨n, rfl⟩ := Text.exists_ofNat hascii
    exact hall n
  · have hlower : c.toLower = c := by
      refine dif_neg fun hcapital => hascii ?_
      exact Nat.lt_of_le_of_lt (UInt32.le_iff_toNat_le.mp hcapital.2) (by decide)
    rw [hlower]

/-- Small letters and capitals have the same values. -/
@[simp] theorem digits?_toLower (cs : List Char) : digits? (cs.map Char.toLower) = digits? cs := by
  induction cs with
  | nil => rfl
  | cons c cs ih =>
      rw [List.map_cons, digits?, List.mapM_cons, ← digits?, ih, digit?_toLower, digits?, digits?,
        List.mapM_cons]

theorem digits?_eq (cs : List Char) :
    digits? cs = if cs.all isHexDigit then some (cs.map hexValue) else none := by
  induction cs with
  | nil => rfl
  | cons c cs ih =>
      rw [digits?, List.mapM_cons, ← digits?, digit?_eq, ih]
      by_cases hc : isHexDigit c = true
      · by_cases hcs : cs.all isHexDigit = true
        · simp [hc, hcs]
        · simp [hc, hcs]
      · simp [hc]

theorem ofHexDigits_eq_ofDigits (cs : List Char) :
    ofHexDigits cs = Nat.ofDigits 16 (cs.map hexValue).reverse := by
  induction cs using List.reverseRecOn with
  | nil => rfl
  | append_singleton cs c ih =>
      rw [ofHexDigits, List.foldl_append, ← ofHexDigits, ih, List.map_append, List.reverse_append]
      simp [Nat.ofDigits_cons, Nat.add_comm]

theorem hexValue_lt {c : Char} (h : isHexDigit c = true) : hexValue c < 16 := by
  have hall : ∀ n : Fin 128, isHexDigit (Char.ofNat n) = true →
      hexValue (Char.ofNat n) < 16 := by decide
  obtain ⟨n, rfl⟩ := Text.exists_ofNat (toNat_lt_of_isHexDigit h)
  exact hall n h

theorem ofHexDigits_doubled (cs : List Char) : ofHexDigits (cs.flatMap fun c => [c, c]) =
    Nat.ofDigits 16 ((cs.map hexValue).flatMap fun n => [n, n]).reverse := by
  rw [ofHexDigits_eq_ofDigits, List.map_flatMap, List.flatMap_map]
  rfl

theorem length_doubled (ns : List Nat) : (ns.flatMap fun n => [n, n]).length = 2 * ns.length := by
  simp [List.length_flatMap, Nat.mul_comm]

/-- With the greatest alpha value in front of its six digits a colour is opaque. -/
theorem ofDigits_alpha {ns : List Nat} (h : ns.length = 6) :
    Nat.ofDigits 16 (15 :: 15 :: ns).reverse = 0xFF000000 + Nat.ofDigits 16 ns.reverse := by
  rw [Nat.ofDigits_reverse_cons, Nat.ofDigits_reverse_cons, List.length_cons, h]
  omega

/-- The digits after the mark are completed to eight, and the word is the number that they make
up. -/
theorem ofHex?_eq (cs : List Char) : ofHex? cs = (digits? cs).bind fun ns =>
    if ns.length ∈ widths then some (UInt32.ofNat (Nat.ofDigits 16 (completed ns).reverse))
    else none := by
  rw [digits?_eq, ofHex?]
  split
  · have hlength : (cs.map hexValue).length = cs.length := List.length_map hexValue
    simp only [Option.bind_some, completed, hlength]
    split
    · rename_i hthree
      simp only [hthree]
      rw [if_pos (by decide), ofHexDigits_doubled, ofDigits_alpha]
      rw [length_doubled, hlength, hthree]
    · rename_i hfour
      simp only [hfour]
      rw [if_pos (by decide), ofHexDigits_doubled]
    · rename_i hsix
      simp only [hsix]
      rw [if_pos (by decide), ofHexDigits_eq_ofDigits, ofDigits_alpha (hlength.trans hsix)]
    · rename_i height
      simp only [height]
      rw [if_pos (by decide), ofHexDigits_eq_ofDigits]
    · rename_i hthree hfour hsix height
      rw [if_neg]
      simp only [widths, List.mem_cons, List.not_mem_nil, or_false]
      rintro (h | h | h | h)
      · exact hthree h
      · exact hfour h
      · exact hsix h
      · exact height h
  · rfl

theorem lt_of_digits? {cs : List Char} {ns : List Nat} (h : digits? cs = some ns) :
    ∀ n ∈ ns, n < 16 := by
  rw [digits?_eq] at h
  split at h
  · rename_i hall
    obtain rfl := Option.some.inj h
    intro n hn
    obtain ⟨c, hc, rfl⟩ := List.mem_map.mp hn
    exact hexValue_lt (List.all_eq_true.mp hall c hc)
  · cases h

theorem length_completed {ns : List Nat} (h : ns.length ∈ widths) :
    (completed ns).length = 8 := by
  simp only [widths, List.mem_cons, List.not_mem_nil, or_false] at h
  rcases h with h | h | h | h
  · simp only [completed, h, List.length_cons, length_doubled]
  · simp only [completed, h, length_doubled]
  · simp only [completed, h, List.length_cons]
  · simp only [completed, h]

theorem lt_of_mem_completed {ns : List Nat} (h : ∀ n ∈ ns, n < 16) :
    ∀ n ∈ completed ns, n < 16 := by
  have hdoubled : ∀ n ∈ ns.flatMap fun n => [n, n], n < 16 := by
    intro n hn
    obtain ⟨m, hm, hn⟩ := List.mem_flatMap.mp hn
    obtain rfl : n = m := by simpa using hn
    exact h n hm
  unfold completed
  split
  · simpa using hdoubled
  · exact hdoubled
  · simpa using h
  · exact h

/-- The digits of a word make up a number of 32 bits. -/
theorem toNat_ofDigits {ns : List Nat} (hlength : ns.length = 8) (h : ∀ n ∈ ns, n < 16) :
    (UInt32.ofNat (Nat.ofDigits 16 ns.reverse)).toNat = Nat.ofDigits 16 ns.reverse := by
  have hlt : Nat.ofDigits 16 ns.reverse < 16 ^ ns.reverse.length :=
    Nat.ofDigits_lt_base_pow_length (by decide) fun n hn => h n (List.mem_reverse.mp hn)
  rw [List.length_reverse, hlength] at hlt
  exact UInt32.toNat_ofNat_of_lt' hlt

/-- Behind the mark, a text without white space around it is read as a word or not at all. -/
theorem read?_mark {h : String} (hh : trimmed h = h) :
    read? ("#" ++ h) = (ofHex? h.toList).map argb := by
  have hsolid : Text.IsSolid h.toList := by
    have htrim := congrArg String.toList hh
    rw [trimmed, String.toList_ofList] at htrim
    exact htrim ▸ Text.isSolid_trim h.toList
  have htrim : Text.trim ("#" ++ h).toList = '#' :: h.toList := by
    rw [String.toList_append]
    exact Text.trim_of_isSolid (.cons rfl hsolid)
  unfold read?
  split
  · rename_i rest hrest
    rw [htrim, List.cons.injEq] at hrest
    rw [hrest.2]
  · rename_i rest hrest
    rw [htrim] at hrest
    cases hrest
  · rename_i hother _
    exact absurd htrim (hother h.toList)

theorem read_eq_ok_iff {s : String} {c : Color} : read s = .ok c ↔ read? s = some c := by
  unfold read
  cases read? s with
  | none => simp
  | some d => simp

/-! ### Words in code -/

def named : List (String × UInt32) :=
  [("Color.White", 0xFFFFFFFF), ("Color.Black", 0xFF000000), ("Color.Transparent", 0x00000000)]

/-- The word of eight digits in a call. -/
def wordOfCall? (cs : List Char) : Option UInt32 :=
  (Text.stripHead? "Color(0x".toList cs).bind fun rest =>
    if rest.length = 9 ∧ rest.getLast? = some ')' then
      (digits? rest.dropLast).map fun ns => UInt32.ofNat (Nat.ofDigits 16 ns.reverse)
    else none

/-- The word that a colour stands for in code, where it is a call or a name. -/
def word? (text : String) : Option UInt32 :=
  wordOfCall? text.toList <|> named.lookup text

@[simp] theorem length_hexDigits (width n : Nat) : (Kotlin.hexDigits width n).length = width := by
  induction width generalizing n with
  | zero => rfl
  | succ width ih => rw [Kotlin.hexDigits, List.length_append, ih, List.length_singleton]

@[simp] theorem wordOfCall?_hexDigits (v : UInt32) :
    wordOfCall? ("Color(0x".toList ++ (Kotlin.hexDigits 8 v.toNat ++ [')'])) = some v := by
  have hall : (Kotlin.hexDigits 8 v.toNat).all isHexDigit = true :=
    Kotlin.all_hexDigits (fun i => (Kotlin.hexValue_hexDigit i.isLt).1) 8 v.toNat
  have hvalue : Nat.ofDigits 16 ((Kotlin.hexDigits 8 v.toNat).map hexValue).reverse = v.toNat := by
    rw [← ofHexDigits_eq_ofDigits, Kotlin.ofHexDigits_hexDigits]
    exact Nat.mod_eq_of_lt v.toNat_lt
  have hlength : (Kotlin.hexDigits 8 v.toNat ++ [')']).length = 9 := by
    rw [List.length_append, length_hexDigits, List.length_singleton]
  rw [wordOfCall?, Text.stripHead?_append, Option.bind_some,
    if_pos ⟨hlength, List.getLast?_concat⟩, List.dropLast_concat, digits?_eq, if_pos hall,
    Option.map_some, hvalue, UInt32.ofNat_toNat]

/-- What is written for a word stands for that word. -/
@[simp] theorem word?_expression (v : UInt32) : word? (argb v).expression = some v := by
  unfold expression
  dsimp only
  split
  · rename_i hwhite
    rw [hwhite]
    decide +kernel
  · split
    · rename_i hblack
      rw [hblack]
      decide +kernel
    · split
      · rename_i htransparent
        rw [htransparent]
        decide +kernel
      · have hclose : ")".toList = [')'] := rfl
        have hdigits : (String.ofList (Kotlin.hexDigits 8 v.toNat)).toList =
            Kotlin.hexDigits 8 v.toNat := String.toList_ofList
        rw [word?, String.toList_append, String.toList_append, hdigits, List.append_assoc, hclose,
          wordOfCall?_hexDigits]
        rfl

/-! ### Colours of all kinds -/

@[simp] theorem expression_resource (r : Reference) :
    (resource r).expression = "colorResource(id = " ++ r.constant ++ ")" := rfl

@[simp] theorem expression_theme (t : ThemeColor) :
    (theme t).expression = "MaterialTheme.colors." ++ t.property := rfl

def initial : Color → Char
  | argb _ => 'C'
  | resource _ => 'c'
  | theme _ => 'M'

@[simp] theorem head?_expression (c : Color) : c.expression.toList.head? = some c.initial := by
  cases c with
  | argb v =>
      unfold expression
      dsimp only
      split
      · rfl
      · split
        · rfl
        · split
          · rfl
          · rw [String.toList_append, String.toList_append]
            rfl
  | resource r =>
      rw [expression_resource, String.toList_append, String.toList_append]
      rfl
  | theme t =>
      rw [expression_theme, String.toList_append]
      rfl

/-- No two colours have the same expression. -/
theorem expression_injective {c d : Color} (hc : c.Proper) (hd : d.Proper)
    (h : c.expression = d.expression) : c = d := by
  have hinitial : c.initial = d.initial := by
    have hhead := congrArg (fun text => text.toList.head?) h
    simpa only [head?_expression, Option.some.injEq] using hhead
  cases c with
  | argb v =>
      cases d with
      | argb w =>
          have hword := word?_expression v
          rw [h, word?_expression] at hword
          rw [Option.some.inj hword]
      | resource q => cases hinitial
      | theme u => cases hinitial
  | resource r =>
      cases d with
      | argb w => cases hinitial
      | resource q =>
          have hconstant : r.constant = q.constant := by
            rw [expression_resource, expression_resource, String.append_left_inj,
              String.append_right_inj] at h
            exact h
          rw [Reference.constant_injective hc.wellFormed hd.wellFormed hconstant]
      | theme u => cases hinitial
  | theme t =>
      cases d with
      | argb w => cases hinitial
      | resource q => cases hinitial
      | theme u =>
          have hproperty : t.property = u.property := by
            rw [expression_theme, expression_theme, String.append_right_inj] at h
            exact h
          rw [ThemeColor.property_injective hproperty]

/-- A colour in digits keeps its value. Behind the mark exactly the texts of three, four, six or
eight digits are read, as the word that the completed digits make up, in small letters as in
capitals. The expression of a word stands for that word, and no two colours have the same
expression. -/
theorem hex_keeps_value :
    (∀ h : String, trimmed h = h →
      (∀ ns, digits? h.toList = some ns → ns.length ∈ widths →
        ∃ v, read ("#" ++ h) = .ok (argb v) ∧
          v.toNat = Nat.ofDigits 16 (completed ns).reverse) ∧
      (∀ c, read ("#" ++ h) = .ok c → ∃ ns, digits? h.toList = some ns ∧ ns.length ∈ widths) ∧
      ∀ k : String, trimmed k = k → k.toList.map Char.toLower = h.toList.map Char.toLower →
        ∀ c, read ("#" ++ k) = .ok c ↔ read ("#" ++ h) = .ok c) ∧
    (∀ v, word? (argb v).expression = some v) ∧
    ∀ c d : Color, c.Proper → d.Proper → c.expression = d.expression → c = d := by
  refine ⟨fun h hh => ⟨fun ns hns hwidth => ?_, fun c hc => ?_, fun k hk hcase c => ?_⟩,
    word?_expression, fun c d => expression_injective⟩
  · refine ⟨UInt32.ofNat (Nat.ofDigits 16 (completed ns).reverse), ?_, ?_⟩
    · rw [read_eq_ok_iff, read?_mark hh, ofHex?_eq, hns, Option.bind_some, if_pos hwidth]
      rfl
    · exact toNat_ofDigits (length_completed hwidth) (lt_of_mem_completed (lt_of_digits? hns))
  · rw [read_eq_ok_iff, read?_mark hh, ofHex?_eq, Option.map_eq_some_iff] at hc
    obtain ⟨v, hv, -⟩ := hc
    obtain ⟨ns, hns, hv⟩ := Option.bind_eq_some_iff.mp hv
    split at hv
    · rename_i hwidth
      exact ⟨ns, hns, hwidth⟩
    · cases hv
  · have hdigits : digits? k.toList = digits? h.toList := by
      rw [← digits?_toLower k.toList, hcase, digits?_toLower]
    rw [read_eq_ok_iff, read_eq_ok_iff, read?_mark hk, read?_mark hh, ofHex?_eq, ofHex?_eq, hdigits]

/-- Four digits in both cases, and two resources that only the framework mark tells apart. -/
theorem hex_keeps_value_short :
    (∃ v, read ("#" ++ "f80A") = .ok (argb v) ∧ v.toNat = 0xFF8800AA) ∧
    (∃ ns, digits? "f80A".toList = some ns ∧ ns.length ∈ widths) ∧
    (∃ v, read ("#" ++ "F80a") = .ok (argb v)) ∧
    word? (argb 0xFF8800AA).expression = some 0xFF8800AA ∧
    (resource ⟨true, "color", "a"⟩).expression ≠ (resource ⟨false, "color", "a"⟩).expression := by
  have hdigits : digits? "f80A".toList = some [15, 8, 0, 10] := by decide +kernel
  obtain ⟨hreads, hread, hcase⟩ := hex_keeps_value.1 "f80A" (by decide +kernel)
  obtain ⟨v, hv, hvalue⟩ := hreads _ hdigits (by decide)
  have hother := (hcase "F80a" (by decide +kernel) (by decide +kernel) _).mpr hv
  have hname : Text.isName "a".toList = true := by decide
  have hproper (framework : Bool) : (resource ⟨framework, "color", "a"⟩).Proper :=
    ⟨List.mem_singleton_self _, hname⟩
  refine ⟨⟨v, hv, hvalue⟩, hread _ hv, ⟨v, hother⟩, hex_keeps_value.2.1 _, fun h => ?_⟩
  exact absurd (hex_keeps_value.2.2 _ _ (hproper true) (hproper false) h) (by decide)

end Color

end LayoutCompose
