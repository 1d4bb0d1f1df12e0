import LayoutCompose.Compose.Control
import LayoutCompose.Kotlin.Screen
import LayoutCompose.Proofs.Names
import LayoutCompose.Proofs.Places
import LayoutCompose.Proofs.ReadValues
import LayoutCompose.Proofs.TokenSource

/-!
The names of functions.

A name is put in Pascal case, loses what is no letter, digit or underscore of ASCII, and gets a word
in front if it would not begin with a letter then. So it always has the form of a name. What it may
be is a keyword: these are written in small letters, and the only small letters of a name are those
that do not begin a word. A name is therefore a keyword exactly if no word has a capital that stays,
and the rest of the words spells one. This cannot happen to a layout that is included, since nothing
of its name is lost.
-/

namespace LayoutCompose

/-! ### Small letters -/

namespace Text

theorem isLower_eq_false {c : Char} (h : c.toNat < 97 ∨ 122 < c.toNat) : c.isLower = false := by
  change (decide ('a'.val ≤ c.val) && decide (c.val ≤ 'z'.val)) = false
  simp only [Bool.and_eq_false_iff, decide_eq_false_iff_not, UInt32.le_iff_toNat_le]
  change c.val.toNat < 97 ∨ 122 < c.val.toNat at h
  exact h.imp Nat.not_le_of_lt Nat.not_le_of_lt

theorem isLower_ofNat_eq_false {n : Nat} (h : n < 97 ∨ 122 < n) :
    (Char.ofNat n).isLower = false := by
  by_cases hvalid : n.isValidChar
  · have hchar : Char.ofNat n = Char.ofNatAux n hvalid := dif_pos hvalid
    rw [hchar]
    exact isLower_eq_false h
  · have hchar : Char.ofNat n = Char.ofNat 0 := dif_neg hvalid
    rw [hchar]
    decide

/-- The other cases of a run of letters are no small letters of ASCII. -/
def CaseRun.avoidsSmall (r : CaseRun) : Bool :=
  decide (r.last + r.distance < 97) || decide (122 < r.first + r.distance)

theorem CaseRun.isLower_shifted {r : CaseRun} {n : Nat} (hr : r.avoidsSmall = true)
    (hn : r.contains n = true) : (Char.ofNat ((n : Int) + r.distance).toNat).isLower = false := by
  simp only [avoidsSmall, Bool.or_eq_true, decide_eq_true_eq] at hr
  simp only [contains, Bool.and_eq_true, decide_eq_true_eq] at hn
  exact isLower_ofNat_eq_false (by omega)

theorem upperRuns_avoidSmall : upperRuns.all CaseRun.avoidsSmall = true := by decide

theorem upperSpecial_avoidsSmall : (upperSpecial.all fun (_, codes) =>
    codes.all fun n => !(Char.ofNat n).isLower) = true := by decide +kernel

/-- There are no small letters of ASCII in upper case. -/
theorem isLower_of_mem_upper {c d : Char} (h : d ∈ upper c) : d.isLower = false := by
  unfold upper at h
  split at h
  · rename_i hascii
    have hall : ∀ n : Fin 128, (Char.ofNat n).toUpper.isLower = false := by decide
    obtain ⟨n, rfl⟩ := exists_ofNat hascii
    obtain rfl := List.mem_singleton.mp h
    exact hall n
  rename_i hascii
  unfold recase at h
  split at h
  · rename_i codes hcodes
    obtain ⟨before, after, hspecial, -⟩ := List.lookup_eq_some_iff.mp hcodes
    have hmem : (c.toNat, codes) ∈ upperSpecial := by simp [hspecial]
    have havoids := List.all_eq_true.mp upperSpecial_avoidsSmall _ hmem
    obtain ⟨n, hn, rfl⟩ := List.mem_map.mp h
    simpa using List.all_eq_true.mp havoids n hn
  · split at h
    · rename_i r hr
      obtain rfl := List.mem_singleton.mp h
      have havoids := List.all_eq_true.mp upperRuns_avoidSmall r (List.mem_of_find?_eq_some hr)
      have hcontains : r.contains c.toNat = true :=
        List.find?_some (p := fun r : CaseRun => r.contains c.toNat) hr
      exact CaseRun.isLower_shifted havoids hcontains
    · obtain rfl := List.mem_singleton.mp h
      exact isLower_eq_false (.inr (by omega))

end Text

namespace Kotlin

/-! ### The form of a name -/

/-- A letter of ASCII, and then letters, digits and underscores. -/
def HasNameForm (name : String) : Prop :=
  ∃ c cs, name.toList = c :: cs ∧ c.isAlpha = true ∧ ∀ d ∈ cs, isNameChar d = true

def kept (raw : String) : List Char :=
  (Text.pascalCase raw.toList).filter isNameChar

theorem functionName_cases (raw : String) :
    (∃ c cs, kept raw = c :: cs ∧ c.isAlpha = true ∧ functionName raw = String.ofList (c :: cs)) ∨
      ((∀ c ∈ (kept raw).head?, c.isAlpha = false) ∧
        functionName raw = "Layout" ++ String.ofList (kept raw)) := by
  unfold functionName
  rw [← kept]
  cases hkept : kept raw with
  | nil => exact .inr ⟨by simp, rfl⟩
  | cons c cs =>
      dsimp only
      split
      · rename_i hc
        exact .inl ⟨c, cs, rfl, hc, rfl⟩
      · rename_i hc
        refine .inr ⟨fun d hd => ?_, rfl⟩
        obtain rfl := Option.some.inj hd
        exact eq_false_of_ne_true hc

theorem isNameChar_of_mem_kept {raw : String} {c : Char} (h : c ∈ kept raw) :
    isNameChar c = true :=
  (List.mem_filter.mp h).2

theorem functionName_hasNameForm (raw : String) : HasNameForm (functionName raw) := by
  rcases functionName_cases raw with ⟨c, cs, hkept, hc, hname⟩ | ⟨-, hname⟩
  · refine ⟨c, cs, by rw [hname, String.toList_ofList], hc, fun d hd => ?_⟩
    exact isNameChar_of_mem_kept (hkept ▸ List.mem_cons_of_mem c hd)
  · have htext : (functionName raw).toList = 'L' :: (['a', 'y', 'o', 'u', 't'] ++ kept raw) := by
      have hrest : (String.ofList (kept raw)).toList = kept raw := String.toList_ofList
      rw [hname, String.toList_append, hrest]
      rfl
    refine ⟨'L', _, htext, by decide, fun d hd => ?_⟩
    have hword : ∀ d ∈ ['a', 'y', 'o', 'u', 't'], isNameChar d = true := by simp [isNameChar]
    exact (List.mem_append.mp hd).elim (hword d) isNameChar_of_mem_kept

/-! ### Keywords -/

theorem isLower_of_mem_keyword {word : String} {c : Char} (hword : word ∈ keywords)
    (hc : c ∈ word.toList) : c.isLower = true := by
  have hall : (keywords.all fun word => word.toList.all Char.isLower) = true := by decide +kernel
  exact List.all_eq_true.mp (List.all_eq_true.mp hall word hword) c hc

theorem not_keyword_of_mem {word : String} {c : Char} (hc : c ∈ word.toList)
    (hlower : c.isLower = false) : word ∉ keywords := by
  intro hword
  rw [isLower_of_mem_keyword hword hc] at hlower
  cases hlower

theorem empty_not_keyword : "" ∉ keywords := by decide

/-- The mark in front of a name is not needed for keywords, and keeps others from being one. -/
theorem functionName_mem_keywords_iff (raw : String) :
    functionName raw ∈ keywords ↔ String.ofList (kept raw) ∈ keywords := by
  rcases functionName_cases raw with ⟨c, cs, hkept, -, hname⟩ | ⟨hhead, hname⟩
  · rw [hname, hkept]
  · constructor
    · intro h
      have hlarge : 'L' ∈ (functionName raw).toList := by
        rw [hname, String.toList_append]
        exact List.mem_append_left _ (by decide)
      exact absurd h (not_keyword_of_mem hlarge (by decide))
    · intro h
      cases hkept : kept raw with
      | nil =>
          rw [hkept] at h
          exact absurd h empty_not_keyword
      | cons c cs =>
          have hlower : c.isLower = true := isLower_of_mem_keyword h (by simp [hkept])
          have halpha : c.isAlpha = true := by
            change (c.isUpper || c.isLower) = true
            rw [hlower, Bool.or_true]
          rw [hhead c (by simp [hkept])] at halpha
          cases halpha

/-- No word begins with a character whose capital stays in the name. -/
def LosesCapitals (raw : String) : Prop :=
  ∀ w ∈ Text.words raw.toList, ∀ c ∈ w.head?, ∀ d ∈ Text.upper c, isNameChar d = false

/-- What stands behind the first characters of the words, in small letters. -/
def keptTails (raw : String) : List Char :=
  ((Text.words raw.toList).flatMap fun w => Text.lowerText w.tail).filter isNameChar

theorem kept_of_losesCapitals {raw : String} (h : LosesCapitals raw) :
    kept raw = keptTails raw := by
  have hword : ∀ w ∈ Text.words raw.toList, (Text.capitalize w).filter isNameChar =
      (Text.lowerText w.tail).filter isNameChar := by
    intro w hw
    cases w with
    | nil => rfl
    | cons c cs =>
        have hcapital : (Text.upper c).filter isNameChar = [] :=
          List.filter_eq_nil_iff.mpr fun d hd => by simp [h _ hw c rfl d hd]
        rw [Text.capitalize, List.filter_append, hcapital]
        rfl
  rw [kept, keptTails, Text.pascalCase, List.filter_flatMap, List.filter_flatMap]
  exact List.flatMap_congr hword

theorem losesCapitals_of_keyword {raw : String} (h : String.ofList (kept raw) ∈ keywords) :
    LosesCapitals raw := by
  intro w hw c hc d hd
  by_contra hstays
  have hmem : d ∈ kept raw := by
    refine List.mem_filter.mpr ⟨List.mem_flatMap.mpr ⟨w, hw, ?_⟩, eq_true_of_ne_false hstays⟩
    cases w with
    | nil => cases hc
    | cons c' cs =>
        obtain rfl := Option.some.inj hc
        exact List.mem_append_left _ hd
  exact not_keyword_of_mem (by simpa using hmem) (Text.isLower_of_mem_upper hd) h

/-- A name turns into a keyword exactly if it loses its capitals and the rest is one. -/
theorem functionName_mem_keywords (raw : String) : functionName raw ∈ keywords ↔
    LosesCapitals raw ∧ String.ofList (keptTails raw) ∈ keywords := by
  rw [functionName_mem_keywords_iff]
  constructor
  · intro h
    have hloses := losesCapitals_of_keyword h
    exact ⟨hloses, kept_of_losesCapitals hloses ▸ h⟩
  · rintro ⟨hloses, h⟩
    rwa [kept_of_losesCapitals hloses]

/-- A capital stays where a word begins with a letter, a digit or an underscore. -/
theorem functionName_not_mem_keywords {raw : String}
    (h : ∃ w ∈ Text.words raw.toList, ∃ c ∈ w.head?, isNameChar c = true) :
    functionName raw ∉ keywords := by
  obtain ⟨w, hw, c, hc, hname⟩ := h
  intro hkeyword
  have hlost := ((functionName_mem_keywords raw).mp hkeyword).1 w hw c hc c.toUpper (by
    simp [Text.upper, toNat_lt_of_isNameChar hname])
  rw [(isNameChar_recased hname).1] at hlost
  cases hlost

theorem functionName_not_mem_keywords_of_isName {raw : String}
    (h : Text.isName raw.toList = true) : functionName raw ∉ keywords := by
  cases hwords : Text.words raw.toList with
  | nil =>
      intro hkeyword
      have htails := ((functionName_mem_keywords raw).mp hkeyword).2
      rw [keptTails, hwords] at htails
      exact empty_not_keyword htails
  | cons w ws =>
      have hw : w ∈ Text.words raw.toList := hwords ▸ List.mem_cons_self
      have hne : w ≠ [] := by simpa using (List.mem_filter.mp hw).2
      obtain ⟨c, cs, rfl⟩ := List.exists_cons_of_ne_nil hne
      have hc := isNameChar_of_isName h c (Text.mem_of_mem_words hw List.mem_cons_self)
      exact functionName_not_mem_keywords ⟨_, hw, c, rfl, hc⟩

/-! ### Declarations and calls -/

/-- The name at the beginning of a text and what stands behind it. The name is as long as it can
be, and may be no keyword. -/
def legalName? (cs : List Char) : Option (String × List Char) :=
  match cs.takeWhile isNameChar with
  | [] => none
  | c :: name =>
    if c.isAlpha && !keywords.contains (String.ofList (c :: name)) then
      some (String.ofList (c :: name), cs.dropWhile isNameChar)
    else none

/-- The function that a line declares. -/
def declared? (line : String) : Option String :=
  ((Text.stripHead? "fun ".toList line.toList).bind legalName?).bind fun (name, rest) =>
    if rest = "() \x7b".toList then some name else none

def called? (line : String) : Option String :=
  (legalName? (line.toList.dropWhile (· == ' '))).bind fun (name, rest) =>
    if rest = "()".toList then some name else none

section Lines

variable {name : String} (hform : HasNameForm name)
include hform

theorem HasNameForm.isNameChar_of_mem {c : Char} (hc : c ∈ name.toList) : isNameChar c = true := by
  obtain ⟨d, cs, hname, hd, hcs⟩ := hform
  rw [hname] at hc
  rcases List.mem_cons.mp hc with rfl | hc
  · simp [isNameChar, Char.isAlphanum, hd]
  · exact hcs c hc

theorem HasNameForm.not_mem {c : Char} (hc : isNameChar c = false) : c ∉ name.toList := by
  intro hmem
  rw [hform.isNameChar_of_mem hmem] at hc
  cases hc

theorem legalName?_append (hkeyword : name ∉ keywords) {d : Char} (hd : isNameChar d = false)
    (rest : List Char) : legalName? (name.toList ++ d :: rest) = some (name, d :: rest) := by
  have hrest : ∀ c ∈ (d :: rest).head?, isNameChar c = false :=
    fun c hc => Option.some.inj hc ▸ hd
  have hspan := Text.span_append (fun c hc => hform.isNameChar_of_mem hc) hrest
  obtain ⟨c, cs, hname, hc, hcs⟩ := hform
  have htext : String.ofList (c :: cs) = name := by rw [← hname, String.ofList_toList]
  unfold legalName?
  rw [hspan.1, hspan.2, hname]
  simp [hc, htext, hkeyword]

theorem declared?_declaration (hkeyword : name ∉ keywords) :
    declared? ("fun " ++ name ++ "() \x7b") = some name := by
  have hlegal : legalName? (name.toList ++ "() \x7b".toList) = some (name, "() \x7b".toList) :=
    legalName?_append hform hkeyword rfl _
  rw [declared?, String.toList_append, String.toList_append, List.append_assoc,
    Text.stripHead?_append, Option.bind_some, hlegal]
  rfl

theorem called?_call (hkeyword : name ∉ keywords) {blanks : String}
    (hblanks : ∀ c ∈ blanks.toList, (c == ' ') = true) :
    called? (blanks ++ name ++ "()") = some name := by
  have hlegal : legalName? (name.toList ++ "()".toList) = some (name, "()".toList) :=
    legalName?_append hform hkeyword rfl _
  have hhead : ∀ c ∈ (name.toList ++ "()".toList).head?, (c == ' ') = false := by
    have hblank : ' ' ∉ name.toList := hform.not_mem rfl
    obtain ⟨c, cs, hname, -⟩ := hform
    rw [hname] at hblank ⊢
    intro d hd
    obtain rfl := Option.some.inj hd
    rw [List.mem_cons, not_or] at hblank
    simpa using Ne.symm hblank.1
  rw [called?, String.toList_append, String.toList_append, List.append_assoc,
    (Text.span_append hblanks hhead).2, hlegal]
  rfl

end Lines

/-! ### Screens -/

def ofLines (lines : List String) : String :=
  String.join (lines.map (· ++ "\n"))

def marking : List String :=
  ["", "@Composable", "@OptIn(ExperimentalMaterialApi::class)"]

def preface : List String :=
  imports.map ("import " ++ ·) ++ marking

def front (name : String) : List String :=
  preface ++ ["fun " ++ name ++ "() \x7b"]

def divide : List String :=
  ["\x7d", "", "@Preview(showBackground = true)", "@Composable"]

def back (name : String) : List String :=
  divide ++ ["fun " ++ (name ++ "Preview") ++ "() \x7b", "    " ++ name ++ "()", "\x7d"]

@[simp] theorem ofLines_append (lines more : List String) :
    ofLines (lines ++ more) = ofLines lines ++ ofLines more := by
  rw [ofLines, List.map_append, String.join_append]
  rfl

@[simp] theorem ofLines_cons (line : String) (lines : List String) :
    ofLines (line :: lines) = line ++ "\n" ++ ofLines lines := by
  rw [ofLines, List.map_cons, String.join_cons]
  rfl

@[simp] theorem ofLines_nil : ofLines [] = "" := rfl

theorem screen_eq (name body : String) :
    screen name body = ofLines (front name) ++ body ++ ofLines (back name) := by
  have himports : ofLines (imports.map ("import " ++ ·)) =
      String.join (imports.map fun i => "import " ++ i ++ "\n") := by
    rw [ofLines, List.map_map]
    rfl
  have hbefore : "\n@Composable\n@OptIn(ExperimentalMaterialApi::class)\nfun " =
      ofLines marking ++ "fun " := by decide +kernel
  have hbetween : "\x7d\n\n@Preview(showBackground = true)\n@Composable\nfun " =
      ofLines divide ++ "fun " := by decide +kernel
  have hfunction : "() \x7b\n" = "() \x7b" ++ "\n" := by decide +kernel
  have hpreview : "Preview() \x7b\n    " = "Preview" ++ "() \x7b" ++ "\n" ++ "    " := by
    decide +kernel
  have hcall : "()\n\x7d\n" = "()" ++ "\n" ++ ("\x7d" ++ "\n") := by decide +kernel
  rw [screen, hbefore, hbetween, hfunction, hpreview, hcall, front, preface, back, ofLines_append,
    ofLines_append, ofLines_append, himports]
  simp only [ofLines_cons, ofLines_nil, String.append_assoc, String.append_empty]

theorem not_mem_append {c : Char} {before after : String} (hbefore : c ∉ before.toList)
    (hafter : c ∉ after.toList) : c ∉ (before ++ after).toList := by
  rw [String.toList_append, List.mem_append, not_or]
  exact ⟨hbefore, hafter⟩

theorem line_break_not_mem_imports : ∀ i ∈ imports, '\n' ∉ i.toList := by
  have hall : (imports.all fun i => !i.toList.contains '\n') = true := by
    simp only [imports, List.all_cons, List.all_nil, Bool.and_true, Bool.and_eq_true]
    and_intros
    all_goals
      rw [String.toList_ofList]
      rfl
  simpa using hall

/-- None of the lines of a screen has a line break inside. -/
theorem line_break_not_mem {name line : String} (hform : HasNameForm name)
    (h : line ∈ front name ++ back name) : '\n' ∉ line.toList := by
  have hname : '\n' ∉ name.toList := hform.not_mem rfl
  simp only [front, preface, marking, back, divide, List.mem_append, List.mem_map, List.mem_cons,
    List.not_mem_nil, or_false] at h
  rcases h with ((⟨i, hi, rfl⟩ | rfl | rfl | rfl) | rfl) | (rfl | rfl | rfl | rfl) |
    rfl | rfl | rfl
  · exact not_mem_append (by decide) (line_break_not_mem_imports i hi)
  · decide
  · decide
  · decide
  · exact not_mem_append (not_mem_append (by decide) hname) (by decide)
  · decide
  · decide
  · decide
  · decide
  · exact not_mem_append (not_mem_append (by decide) (not_mem_append hname (by decide))) (by decide)
  · exact not_mem_append (not_mem_append (by decide) hname) (by decide)
  · decide

theorem preview_not_keyword (name : String) : name ++ "Preview" ∉ keywords := by
  have hlarge : 'P' ∈ (name ++ "Preview").toList := by
    rw [String.toList_append]
    exact List.mem_append_right _ (by decide)
  exact not_keyword_of_mem hlarge (by decide)

@[simp] theorem called?_declaration (name : String) :
    called? ("fun " ++ name ++ "() \x7b") = none := by
  rw [called?, String.toList_append, String.toList_append]
  rfl

@[simp] theorem declared?_call (name : String) : declared? ("    " ++ name ++ "()") = none := by
  rw [declared?, String.toList_append, String.toList_append]
  rfl

theorem read_import (name : String) :
    declared? ("import " ++ name) = none ∧ called? ("import " ++ name) = none := by
  rw [declared?, called?, String.toList_append]
  exact ⟨rfl, rfl⟩

/-- The lines in front of the function neither declare nor call one. -/
theorem read_preface : preface.filterMap declared? = [] ∧ preface.filterMap called? = [] := by
  have hmarking : marking.filterMap declared? = [] ∧ marking.filterMap called? = [] := by
    decide +kernel
  rw [preface, List.filterMap_append, List.filterMap_append, hmarking.1, hmarking.2]
  simp [List.filterMap_map, read_import]

section Screens

variable {name : String} (hform : HasNameForm name)
include hform

theorem HasNameForm.preview : HasNameForm (name ++ "Preview") := by
  obtain ⟨c, cs, hname, hc, hcs⟩ := hform
  refine ⟨c, cs ++ "Preview".toList, by rw [String.toList_append, hname]; rfl, hc, fun d hd => ?_⟩
  have hword : ∀ d ∈ "Preview".toList, isNameChar d = true := List.all_eq_true.mp rfl
  exact (List.mem_append.mp hd).elim (hcs d) (hword d)

/-- In front of its body, a screen declares its function and calls nothing. -/
theorem front_lines (hkeyword : name ∉ keywords) :
    (front name).filterMap declared? = [name] ∧ (front name).filterMap called? = [] := by
  constructor
  · rw [front, List.filterMap_append, read_preface.1]
    simp [declared?_declaration hform hkeyword]
  · rw [front, List.filterMap_append, read_preface.2]
    simp [called?_declaration]

/-- Behind its body, a screen declares the preview, which calls the function. -/
theorem back_lines (hkeyword : name ∉ keywords) :
    (back name).filterMap declared? = [name ++ "Preview"] ∧
      (back name).filterMap called? = [name] := by
  have hdivide : divide.filterMap declared? = [] ∧ divide.filterMap called? = [] := by
    decide +kernel
  have hend : declared? "\x7d" = none ∧ called? "\x7d" = none := by decide +kernel
  have hpreview := declared?_declaration hform.preview (preview_not_keyword name)
  have hcall := called?_call hform hkeyword (List.all_eq_true.mp rfl : ∀ c ∈ "    ".toList, _)
  constructor
  · rw [back, List.filterMap_append, hdivide.1]
    simp [hpreview, declared?_call, hend.1]
  · rw [back, List.filterMap_append, hdivide.2]
    simp [called?_declaration, hcall, hend.2]

end Screens

end Kotlin

namespace Compose

@[simp] theorem inclusionLine_result (f : Frame) (layout : Reference) :
    (inclusionLine f layout).result = .ok (Kotlin.functionName layout.name ++ "()") := by
  unfold inclusionLine
  split <;> rfl

end Compose

namespace Kotlin

/-- The name of a function has the form of a name. It is a keyword exactly if no word keeps its
capital and the rest of the words spells one. If it is none, then around its body a screen of that
name declares the function and its preview, and calls the function in the latter. The function of a
layout that is included is never a keyword, and the line for it calls the function. -/
theorem functionName_legal (raw : String) :
    HasNameForm (functionName raw) ∧
    (functionName raw ∈ keywords ↔
      LosesCapitals raw ∧ String.ofList (keptTails raw) ∈ keywords) ∧
    (functionName raw ∉ keywords → ∃ before after : List String,
      (∀ body, screen (functionName raw) body = ofLines before ++ body ++ ofLines after) ∧
      (∀ line ∈ before ++ after, '\n' ∉ line.toList) ∧
      (before.filterMap declared? = [functionName raw] ∧ before.filterMap called? = []) ∧
      after.filterMap declared? = [functionName raw ++ "Preview"] ∧
        after.filterMap called? = [functionName raw]) ∧
    ∀ s layout, Reference.readLayout s = .ok layout → layout.name = raw →
      functionName raw ∉ keywords ∧
      ∀ scope f, ∃ line, (Compose.controlLine scope f (.inclusion layout)).result = .ok line ∧
        called? line = some (functionName raw) := by
  have hform := functionName_hasNameForm raw
  refine ⟨hform, functionName_mem_keywords raw, fun hkeyword => ?_, fun s layout hread hname => ?_⟩
  · exact ⟨_, _, screen_eq _, fun line => line_break_not_mem hform, front_lines hform hkeyword,
      back_lines hform hkeyword⟩
  · subst hname
    have hkeyword := functionName_not_mem_keywords_of_isName
      (Reference.isOf_of_readLayout hread).name
    refine ⟨hkeyword, fun scope f => ⟨_, Compose.inclusionLine_result f layout, ?_⟩⟩
    have hcalled := called?_call hform hkeyword (List.all_eq_true.mp rfl : ∀ c ∈ "".toList, _)
    rwa [String.empty_append] at hcalled

/-- A name that begins with a digit, and an included layout whose name is a keyword. -/
theorem functionName_legal_class :
    (functionName "2fa_prompt" ∉ keywords ∧ ∃ before after : List String,
      (∀ body, screen (functionName "2fa_prompt") body = ofLines before ++ body ++ ofLines after) ∧
      (∀ line ∈ before ++ after, '\n' ∉ line.toList) ∧
      (before.filterMap declared? = [functionName "2fa_prompt"] ∧
        before.filterMap called? = []) ∧
      after.filterMap declared? = [functionName "2fa_prompt" ++ "Preview"] ∧
        after.filterMap called? = [functionName "2fa_prompt"]) ∧
    Reference.readLayout "@layout/class" = .ok ⟨false, "layout", "class"⟩ ∧
    functionName "class" ∉ keywords ∧
    ∃ line, (Compose.controlLine .top {} (.inclusion ⟨false, "layout", "class"⟩)).result =
      .ok line ∧ called? line = some (functionName "class") := by
  have hdigits : functionName "2fa_prompt" ∉ keywords := by decide +kernel
  have hread : Reference.readLayout "@layout/class" = .ok ⟨false, "layout", "class"⟩ := by
    decide +kernel
  have hclass := (functionName_legal "class").2.2.2 _ _ hread rfl
  exact ⟨⟨hdigits, (functionName_legal "2fa_prompt").2.2.1 hdigits⟩, hread, hclass.1,
    hclass.2 .top {}⟩

/-- The capital of a word is lost where it is no letter of ASCII, and the rest may be a keyword. The
line of the screen that should declare the function declares none then. -/
theorem functionName_spells_keyword :
    functionName "éas" = "as" ∧ functionName "éas" ∈ keywords ∧
      declared? ("fun " ++ functionName "éas" ++ "() \x7b") = none := by
  decide +kernel

end Kotlin

end LayoutCompose
