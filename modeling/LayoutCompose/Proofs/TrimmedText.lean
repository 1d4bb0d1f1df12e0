import LayoutCompose.Proofs.TokenSource
import Mathlib.Data.List.Infix

/-!
Texts without the white space around them, and texts cut at a mark.

Trimming splits a text into white space, a text with solid ends, and white space, and there is only
one such split. So what a grammar makes of a trimmed text can be said of the text in the middle. In
the same way there is only one first place at which a mark stands, and a text put together around a
mark is cut there as soon as the mark does not begin any earlier.
-/

namespace LayoutCompose.Text

/-! ### White space at the ends -/

/-- A text that neither begins nor ends with white space. -/
structure IsSolid (cs : List Char) : Prop where
  head : ∀ c ∈ cs.head?, isBlank c = false
  last : ∀ c ∈ cs.getLast?, isBlank c = false

variable {before cs after : List Char}

theorem isSolid_of_not_blank (h : ∀ c ∈ cs, isBlank c = false) : IsSolid cs :=
  ⟨fun c hc => h c (List.mem_of_head? hc), fun c hc => h c (List.mem_of_getLast? hc)⟩

theorem isSolid_singleton {c : Char} (h : isBlank c = false) : IsSolid [c] :=
  isSolid_of_not_blank fun _ hd => List.mem_singleton.mp hd ▸ h

theorem IsSolid.cons {c : Char} (hc : isBlank c = false) (h : IsSolid cs) : IsSolid (c :: cs) := by
  constructor
  · intro d hd
    obtain rfl := Option.some.inj hd
    exact hc
  · intro d hd
    rw [List.getLast?_cons, Option.mem_some_iff] at hd
    cases hlast : cs.getLast? with
    | none => rwa [← hd, hlast]
    | some e =>
        rw [← hd, hlast]
        exact h.last e hlast

theorem not_mem_of_isBlank {c : Char} (h : ∀ d ∈ cs, isBlank d = true) (hc : isBlank c = false) :
    c ∉ cs := by
  intro hmem
  rw [h c hmem] at hc
  cases hc

/-- A text has solid ends if it begins and ends with texts that have. -/
theorem IsSolid.between {first last : List Char} (hfirst : IsSolid first) (hlast : IsSolid last)
    (hfirst_ne : first ≠ []) (hlast_ne : last ≠ []) (middle : List Char) :
    IsSolid (first ++ (middle ++ last)) := by
  constructor
  · intro c hc
    rw [List.head?_append_of_ne_nil _ hfirst_ne] at hc
    exact hfirst.head c hc
  · intro c hc
    rw [← List.append_assoc, List.getLast?_append_of_ne_nil _ hlast_ne] at hc
    exact hlast.last c hc

theorem trimEnd_append (hafter : ∀ c ∈ after, isBlank c = true)
    (hcs : ∀ c ∈ cs.getLast?, isBlank c = false) : trimEnd (cs ++ after) = cs := by
  have hdrop : (after.reverse ++ cs.reverse).dropWhile isBlank = cs.reverse := by
    refine (span_append ?_ ?_).2
    · intro c hc
      exact hafter c (List.mem_reverse.mp hc)
    · rw [List.head?_reverse]
      exact hcs
  rw [trimEnd, List.reverse_append, hdrop, List.reverse_reverse]

theorem trim_blanks_append (hbefore : ∀ c ∈ before, isBlank c = true) (cs : List Char) :
    trim (before ++ cs) = trim cs := by
  rw [trim, trimStart, List.dropWhile_append_of_pos hbefore]
  rfl

/-- Of white space, a text with solid ends and white space, trimming leaves the text. -/
theorem trim_append (hbefore : ∀ c ∈ before, isBlank c = true)
    (hafter : ∀ c ∈ after, isBlank c = true) (hcs : IsSolid cs) :
    trim (before ++ (cs ++ after)) = cs := by
  rw [trim_blanks_append hbefore, trim, trimStart]
  cases cs with
  | nil =>
      have hnil : after.dropWhile isBlank = [] := List.dropWhile_eq_nil_iff.mpr hafter
      rw [List.nil_append, hnil]
      rfl
  | cons c cs =>
      have hc : ¬ isBlank c = true := by simp [hcs.head c rfl]
      rw [List.cons_append, List.dropWhile_cons_of_neg hc, ← List.cons_append]
      exact trimEnd_append hafter hcs.last

theorem trim_of_isSolid (h : IsSolid cs) : trim cs = cs := by
  have hnone : ∀ c ∈ ([] : List Char), isBlank c = true := fun c hc => absurd hc List.not_mem_nil
  simpa using trim_append hnone hnone h

theorem exists_blanks_trimStart (cs : List Char) :
    ∃ after, trimStart cs = trim cs ++ after ∧ ∀ c ∈ after, isBlank c = true := by
  refine ⟨((trimStart cs).reverse.takeWhile isBlank).reverse, ?_, ?_⟩
  · rw [trim, trimEnd, ← List.reverse_append, List.takeWhile_append_dropWhile,
      List.reverse_reverse]
  · intro c hc
    exact List.mem_takeWhile_imp (List.mem_reverse.mp hc)

/-- A text is what trimming leaves of it, with white space on both sides. -/
theorem exists_blanks_trim (cs : List Char) : ∃ before after, cs = before ++ (trim cs ++ after) ∧
    (∀ c ∈ before, isBlank c = true) ∧ ∀ c ∈ after, isBlank c = true := by
  obtain ⟨after, hsplit, hafter⟩ := exists_blanks_trimStart cs
  refine ⟨cs.takeWhile isBlank, after, ?_, fun c hc => List.mem_takeWhile_imp hc, hafter⟩
  rw [← hsplit, trimStart, List.takeWhile_append_dropWhile]

theorem isBlank_of_mem_head?_dropWhile {c : Char} (h : c ∈ (cs.dropWhile isBlank).head?) :
    isBlank c = false := by
  have hnot := List.head?_dropWhile_not isBlank cs
  rw [Option.mem_def.mp h] at hnot
  exact hnot

theorem isSolid_trim (cs : List Char) : IsSolid (trim cs) := by
  constructor
  · intro c hc
    obtain ⟨after, hsplit, -⟩ := exists_blanks_trimStart cs
    have hhead : c ∈ (cs.dropWhile isBlank).head? := by
      rw [← trimStart, hsplit]
      exact List.mem_head?_append_of_mem_head? hc
    exact isBlank_of_mem_head?_dropWhile hhead
  · intro c hc
    rw [trim, trimEnd, List.getLast?_reverse] at hc
    exact isBlank_of_mem_head?_dropWhile hc

/-! ### Cutting at a mark -/

/-- A text is cut at a mark that does not begin any earlier, be it in part in front of the place
where it stands. -/
theorem cut?_of_begins_first {mark : List Char} (hmark : mark ≠ [])
    (h : ¬ mark <:+: before ++ mark.dropLast) (after : List Char) :
    cut? mark (before ++ (mark ++ after)) = some (before, after) := by
  induction before with
  | nil =>
      obtain ⟨c, cs, rfl⟩ := List.exists_cons_of_ne_nil hmark
      rw [List.nil_append, List.cons_append, cut?, ← List.cons_append, stripHead?_append]
  | cons c before ih =>
      have hrest : ¬ mark <:+: before ++ mark.dropLast := fun hlater =>
        h (hlater.trans (List.suffix_cons c _).isInfix)
      have hnone : stripHead? mark (c :: (before ++ (mark ++ after))) = none := by
        by_contra hsome
        obtain ⟨rest, hstrip⟩ := Option.ne_none_iff_exists'.mp hsome
        have hbegins : mark <+: c :: (before ++ (mark ++ after)) :=
          ⟨rest, (eq_append_of_stripHead? hstrip).symm⟩
        have hstart : c :: (before ++ mark.dropLast) <+: c :: (before ++ (mark ++ after)) := by
          have hshort : mark.dropLast <+: mark := List.dropLast_prefix mark
          refine List.cons_prefix_cons.mpr ⟨rfl, (List.prefix_append_right_inj before).mpr ?_⟩
          exact hshort.trans (List.prefix_append mark after)
        have hlength : mark.length ≤ (c :: (before ++ mark.dropLast)).length := by
          simp only [List.length_cons, List.length_append, List.length_dropLast]
          omega
        exact h (List.prefix_of_prefix_length_le hbegins hstart hlength).isInfix
      rw [List.cons_append, cut?, hnone, ih hrest]
      rfl

/-- A text is cut at a single character where it stands first. -/
theorem cut?_of_not_mem {mark : Char} (h : mark ∉ before) (after : List Char) :
    cut? [mark] (before ++ mark :: after) = some (before, after) := by
  refine cut?_of_begins_first (List.cons_ne_nil mark []) ?_ after
  rw [List.dropLast_singleton, List.append_nil, List.singleton_infix_iff]
  exact h

end LayoutCompose.Text
