import LayoutCompose.Value.Caption
import Mathlib.Algebra.Ring.Parity
import Mathlib.Data.List.TakeWhile

/-!
The text of captions.

A backslash is read together with the character behind it, so a text can be cut in two and read
part by part wherever the cut does not come between a backslash and what it escapes. Within a run of
backslashes this depends on how many there are in front of the cut: an even number is read in pairs.
Each character has a spelling that is read as that character, whatever follows it, and so every text
has a form in which it is read as itself.
-/

namespace LayoutCompose.Caption

variable {c : Char} {cs : List Char}

/-! ### Reading from left to right -/

def escaped (c : Char) : Char :=
  if c = 'n' then '\n' else if c = 't' then '\t' else c

theorem unescape_escaped (c : Char) (cs : List Char) :
    unescape ('\\' :: c :: cs) = escaped c :: unescape cs := by
  unfold escaped
  split_ifs with hline htab
  · subst hline
    rfl
  · subst htab
    rfl
  · rw [unescape.eq_4 _ _ hline htab]

theorem unescape_cons (h : c ≠ '\\') (cs : List Char) :
    unescape (c :: cs) = c :: unescape cs := by
  cases cs with
  | nil => simp [unescape]
  | cons d ds => rw [unescape.eq_5] <;> simp [h]

/-- Induction over the characters that are read: a backslash goes with the character behind it, and
only at the very end does it stand alone. -/
@[elab_as_elim]
theorem reading_induction {motive : List Char → Prop} (nil : motive [])
    (lone : motive ['\\']) (escaped : ∀ c cs, motive cs → motive ('\\' :: c :: cs))
    (plain : ∀ c cs, c ≠ '\\' → motive cs → motive (c :: cs)) (cs : List Char) : motive cs := by
  fun_induction unescape cs with
  | case1 => exact nil
  | case2 cs ih => exact escaped 'n' cs ih
  | case3 cs ih => exact escaped 't' cs ih
  | case4 c cs _ _ ih => exact escaped c cs ih
  | case5 c cs _ _ hescaped ih =>
      by_cases hc : c = '\\'
      · cases cs with
        | nil => exact hc ▸ lone
        | cons d ds => exact absurd rfl (hescaped d ds hc)
      · exact plain c cs hc ih

/-- A text without backslashes stands for itself. -/
theorem unescape_of_not_mem (h : '\\' ∉ cs) : unescape cs = cs := by
  induction cs with
  | nil => rfl
  | cons c cs ih =>
      rw [List.mem_cons, not_or] at h
      rw [unescape_cons (Ne.symm h.1), ih h.2]

/-! ### Backslashes at the end -/

def slashesAtEnd (cs : List Char) : Nat :=
  (cs.reverse.takeWhile (· == '\\')).length

/-- A backslash at the end is unpaired if the run that it ends has an odd length. -/
def EndsUnpaired (cs : List Char) : Prop :=
  Odd (slashesAtEnd cs)

instance : DecidablePred EndsUnpaired :=
  fun cs => inferInstanceAs (Decidable (Odd (slashesAtEnd cs)))

/-- What stands in front of a text is either cut off from its end or adds its own backslashes. -/
theorem slashesAtEnd_append (cs ds : List Char) :
    slashesAtEnd (cs ++ ds) = slashesAtEnd ds ∨
      slashesAtEnd (cs ++ ds) = slashesAtEnd ds + slashesAtEnd cs := by
  unfold slashesAtEnd
  rw [List.reverse_append, List.takeWhile_append]
  split
  · rename_i hall
    rw [List.length_append, hall]
    exact .inr rfl
  · exact .inl rfl

theorem endsUnpaired_append (h : ¬ EndsUnpaired cs) (ds : List Char) :
    EndsUnpaired (cs ++ ds) ↔ EndsUnpaired ds := by
  have heven : Even (slashesAtEnd cs) := Nat.not_odd_iff_even.mp h
  unfold EndsUnpaired
  rcases slashesAtEnd_append cs ds with hlength | hlength
  · rw [hlength]
  · rw [hlength, Nat.odd_add]
    exact iff_true_right heven

theorem not_endsUnpaired_singleton (h : c ≠ '\\') : ¬ EndsUnpaired [c] := by
  simp [EndsUnpaired, slashesAtEnd, h]

/-- A backslash and what it escapes end in two backslashes or in none. -/
theorem not_endsUnpaired_escaped (c : Char) : ¬ EndsUnpaired ['\\', c] := by
  by_cases h : c = '\\'
  · subst h
    decide
  · simp [EndsUnpaired, slashesAtEnd, h]

/-- A text is read part by part, unless a backslash at the end of the first part escapes the
beginning of the second. -/
theorem unescape_append (h : ¬ EndsUnpaired cs) (ds : List Char) :
    unescape (cs ++ ds) = unescape cs ++ unescape ds := by
  induction cs using reading_induction with
  | nil => rfl
  | lone => exact absurd (by decide) h
  | escaped c cs ih =>
      have hrest : ¬ EndsUnpaired cs :=
        mt (endsUnpaired_append (not_endsUnpaired_escaped c) cs).mpr h
      rw [List.cons_append, List.cons_append, unescape_escaped, unescape_escaped, ih hrest,
        List.cons_append]
  | plain c cs hc ih =>
      have hrest : ¬ EndsUnpaired cs :=
        mt (endsUnpaired_append (not_endsUnpaired_singleton hc) cs).mpr h
      rw [List.cons_append, unescape_cons hc, unescape_cons hc, ih hrest, List.cons_append]

/-! ### Writing -/

/-- Writes a text so that it reads back as itself: the special characters and a leading mark of
a reference are escaped. -/
def escape (cs : List Char) : List Char :=
  let body := cs.flatMap fun c =>
    if c = '\\' then ['\\', '\\']
    else if c = '\n' then ['\\', 'n']
    else if c = '\t' then ['\\', 't']
    else [c]
  match cs.head? with
  | some '@' | some '?' => '\\' :: body
  | _ => body

/-- A character as it stands in an escaped text. -/
def spelled (c : Char) : List Char :=
  if c = '\\' then ['\\', '\\']
  else if c = '\n' then ['\\', 'n']
  else if c = '\t' then ['\\', 't']
  else [c]

/-- A text begins as a reference does. -/
def LooksReferred (cs : List Char) : Prop :=
  cs.head? = some '@' ∨ cs.head? = some '?'

/-- All characters are spelled one by one, behind a backslash if the text would else be taken for
a reference. -/
theorem escape_cases (cs : List Char) :
    (LooksReferred cs ∧ escape cs = '\\' :: cs.flatMap spelled) ∨
      (¬ LooksReferred cs ∧ escape cs = cs.flatMap spelled) := by
  unfold escape LooksReferred
  dsimp only
  split
  · rename_i hhead
    exact .inl ⟨.inl hhead, rfl⟩
  · rename_i hhead
    exact .inl ⟨.inr hhead, rfl⟩
  · rename_i hat hquery
    exact .inr ⟨not_or.mpr ⟨hat, hquery⟩, rfl⟩

@[simp] theorem unescape_spelled (c : Char) (rest : List Char) :
    unescape (spelled c ++ rest) = c :: unescape rest := by
  unfold spelled
  split_ifs with hslash hline htab
  · subst hslash
    rfl
  · subst hline
    rfl
  · subst htab
    rfl
  · exact unescape_cons hslash rest

@[simp] theorem unescape_flatMap_spelled (cs : List Char) : unescape (cs.flatMap spelled) = cs := by
  induction cs with
  | nil => rfl
  | cons c cs ih => rw [List.flatMap_cons, unescape_spelled, ih]

theorem not_looksReferred_flatMap_spelled (h : ¬ LooksReferred cs) :
    ¬ LooksReferred (cs.flatMap spelled) := by
  cases cs with
  | nil => exact h
  | cons c cs =>
      unfold spelled
      rw [List.flatMap_cons]
      split_ifs
      · simp [LooksReferred]
      · simp [LooksReferred]
      · simp [LooksReferred]
      · exact h

theorem not_looksReferred_escape (cs : List Char) : ¬ LooksReferred (escape cs) := by
  rcases escape_cases cs with ⟨-, hcs⟩ | ⟨h, hcs⟩
  · simp [LooksReferred, hcs]
  · exact hcs ▸ not_looksReferred_flatMap_spelled h

@[simp] theorem unescape_escape (cs : List Char) : unescape (escape cs) = cs := by
  rcases escape_cases cs with ⟨hmark, hcs⟩ | ⟨-, hcs⟩
  · rw [hcs]
    cases cs with
    | nil => simp [LooksReferred] at hmark
    | cons c cs =>
        have hc : spelled c = [c] ∧ escaped c = c := by
          rcases hmark with hmark | hmark <;> obtain rfl := Option.some.inj hmark
          · exact ⟨rfl, rfl⟩
          · exact ⟨rfl, rfl⟩
        rw [List.flatMap_cons, hc.1, List.singleton_append, unescape_escaped, hc.2,
          unescape_flatMap_spelled]
  · rw [hcs, unescape_flatMap_spelled]

theorem read_of_not_looksReferred {s : String} (h : ¬ LooksReferred s.toList) :
    read s = .ok (literal (String.ofList (unescape s.toList))) :=
  if_neg h

/-- Every text is read from its escaped form. Reading goes part by part, as long as no part ends in
an unpaired backslash, and leaves alone what has no backslashes. -/
theorem escape_reads_back :
    (∀ s : String, read (String.ofList (escape s.toList)) = .ok (literal s)) ∧
    (∀ cs ds : List Char, ¬ EndsUnpaired cs →
      unescape (cs ++ ds) = unescape cs ++ unescape ds) ∧
    ∀ cs : List Char, '\\' ∉ cs → unescape cs = cs := by
  refine ⟨fun s => ?_, fun cs ds h => unescape_append h ds, fun cs h => unescape_of_not_mem h⟩
  have hplain : ¬ LooksReferred (String.ofList (escape s.toList)).toList := by
    rw [String.toList_ofList]
    exact not_looksReferred_escape s.toList
  rw [read_of_not_looksReferred hplain, String.toList_ofList, unescape_escape, String.ofList_toList]

/-- A text that looks like a reference, a cut behind two pairs of backslashes, and a text with a
slash that is none. -/
theorem escape_reads_back_slashes :
    read "\\@\\\\n\\n" = .ok (literal "@\\n\n") ∧
    ¬ EndsUnpaired "a\\\\\\\\".toList ∧
    unescape ("a\\\\\\\\".toList ++ "n\\n".toList) =
      unescape "a\\\\\\\\".toList ++ unescape "n\\n".toList ∧
    '\\' ∉ "a/n".toList ∧ unescape "a/n".toList = "a/n".toList := by
  have heven : ¬ EndsUnpaired "a\\\\\\\\".toList := by decide
  have hnone : '\\' ∉ "a/n".toList := by decide
  exact ⟨escape_reads_back.1 "@\\n\n", heven, escape_reads_back.2.1 _ _ heven, hnone,
    escape_reads_back.2.2 _ hnone⟩

end LayoutCompose.Caption
