import LayoutCompose.Markup.Token
import Mathlib.Data.List.TakeWhile

/-!
Tokens and the text that they are read from.

A token is read from its own source, whatever stands behind it; only a run of text has to end where
markup begins. So a document is its tokens one after the other, and a document put together from
tokens that can be read is read as these tokens.
-/

namespace LayoutCompose

namespace Text

variable {mark cs before after : List Char}

/-- A run of characters ends where the next one is of another kind. -/
theorem span_append {p : Char → Bool} {run rest : List Char} (hrun : ∀ c ∈ run, p c = true)
    (hrest : ∀ c ∈ rest.head?, p c = false) :
    (run ++ rest).takeWhile p = run ∧ (run ++ rest).dropWhile p = rest := by
  rw [List.takeWhile_append_of_pos hrun, List.dropWhile_append_of_pos hrun]
  cases rest with
  | nil => simp
  | cons c rest => simp [hrest c rfl]

@[simp] theorem stripHead?_append (head rest : List Char) :
    stripHead? head (head ++ rest) = some rest := by
  induction head with
  | nil => rfl
  | cons h head ih => rw [List.cons_append, stripHead?, if_pos rfl, ih]

@[simp] theorem dropHead_cons (mark c : Char) (cs : List Char) :
    dropHead [mark] (c :: cs) = if mark = c then cs else c :: cs := by
  rw [dropHead, stripHead?, stripHead?]
  split <;> rfl

theorem eq_append_of_stripHead? {head rest : List Char} (h : stripHead? head cs = some rest) :
    cs = head ++ rest := by
  fun_induction stripHead? head cs with
  | case1 cs => exact Option.some.inj h
  | case2 => cases h
  | case3 head c cs ih => rw [List.cons_append, ← ih h]
  | case4 => cases h

/-- Whether a text begins with a mark is settled by as many characters. -/
theorem stripHead?_append_eq_none {head rest : List Char} (hlength : head.length ≤ cs.length)
    (h : stripHead? head (cs ++ rest) = none) (other : List Char) :
    stripHead? head (cs ++ other) = none := by
  induction head generalizing cs with
  | nil => cases h
  | cons d head ih =>
      cases cs with
      | nil => simp at hlength
      | cons c cs =>
          rw [List.cons_append, stripHead?] at h ⊢
          split
          · rename_i hc
            rw [if_pos hc] at h
            exact ih (Nat.le_of_succ_le_succ hlength) h
          · rfl

theorem eq_append_of_cut? (h : cut? mark cs = some (before, after)) :
    cs = before ++ (mark ++ after) := by
  induction cs generalizing before with
  | nil =>
      rw [cut?] at h
      split at h
      · rename_i hmark
        cases h
        rw [hmark]
        rfl
      · cases h
  | cons c cs ih =>
      rw [cut?] at h
      split at h
      · rename_i rest hrest
        cases h
        rw [List.nil_append]
        exact eq_append_of_stripHead? hrest
      · obtain ⟨⟨rest, after'⟩, hcut, hpair⟩ := Option.map_eq_some_iff.mp h
        cases hpair
        rw [ih hcut, List.cons_append]

/-- A cut is made at the same place, whatever stands behind the mark. -/
theorem cut?_append (hmark : mark ≠ [])
    (h : cut? mark (before ++ (mark ++ after)) = some (before, after)) (rest : List Char) :
    cut? mark (before ++ (mark ++ rest)) = some (before, rest) := by
  induction before with
  | nil =>
      obtain ⟨c, cs, rfl⟩ := List.exists_cons_of_ne_nil hmark
      rw [List.nil_append, List.cons_append, cut?, ← List.cons_append, stripHead?_append]
  | cons c before ih =>
      rw [List.cons_append, cut?] at h ⊢
      cases hstrip : stripHead? mark (c :: (before ++ (mark ++ after))) with
      | some rest' =>
          rw [hstrip] at h
          cases h
      | none =>
          have hlength : mark.length ≤ (c :: (before ++ mark)).length := by
            rw [List.length_cons, List.length_append]
            omega
          have hnone : stripHead? mark (c :: (before ++ (mark ++ rest))) = none := by
            have hshort : stripHead? mark (c :: (before ++ mark) ++ after) = none := by
              simpa using hstrip
            simpa using stripHead?_append_eq_none hlength hshort rest
          rw [hstrip] at h
          obtain ⟨⟨rest', after'⟩, hcut, hpair⟩ := Option.map_eq_some_iff.mp h
          cases hpair
          rw [hnone, ih hcut]
          rfl

end Text

namespace Markup

variable {cs content rest after : List Char}

/-! ### Cutting at brackets -/

/-- A cut that is made at a bracket by going from character to character. -/
structure CutsAtBracket {σ : Type} (cut : σ → List Char → Option (List Char × List Char)) :
    Prop where
  nil : ∀ state, cut state [] = none
  cons : ∀ state c, (c = '>' ∧ ∀ cs, cut state (c :: cs) = some ([], cs)) ∨
    ∃ next, ∀ cs, cut state (c :: cs) =
      (cut next cs).map fun (content, rest) => (c :: content, rest)

namespace CutsAtBracket

variable {σ : Type} {cut : σ → List Char → Option (List Char × List Char)} {state : σ}

theorem eq_append (hcut : CutsAtBracket cut) (h : cut state cs = some (content, rest)) :
    cs = content ++ '>' :: rest := by
  induction cs generalizing state content with
  | nil => simp [hcut.nil] at h
  | cons c cs ih =>
      rcases hcut.cons state c with ⟨rfl, hstop⟩ | ⟨next, hnext⟩
      · rw [hstop] at h
        cases h
        rfl
      · rw [hnext] at h
        obtain ⟨⟨content', rest'⟩, hrest, hpair⟩ := Option.map_eq_some_iff.mp h
        cases hpair
        rw [ih hrest]
        rfl

/-- The cut is made at the same bracket, whatever stands behind it. -/
theorem append (hcut : CutsAtBracket cut)
    (h : cut state (content ++ '>' :: after) = some (content, after)) (rest : List Char) :
    cut state (content ++ '>' :: rest) = some (content, rest) := by
  induction content generalizing state with
  | nil =>
      rcases hcut.cons state '>' with ⟨-, hstop⟩ | ⟨next, hnext⟩
      · exact hstop rest
      · rw [List.nil_append, hnext] at h
        obtain ⟨⟨content', rest'⟩, -, hpair⟩ := Option.map_eq_some_iff.mp h
        cases hpair
  | cons c content ih =>
      rw [List.cons_append] at h ⊢
      rcases hcut.cons state c with ⟨rfl, hstop⟩ | ⟨next, hnext⟩
      · rw [hstop] at h
        cases h
      · rw [hnext] at h ⊢
        obtain ⟨⟨content', rest'⟩, hrest, hpair⟩ := Option.map_eq_some_iff.mp h
        cases hpair
        rw [ih hrest]
        rfl

end CutsAtBracket

theorem cutsAtBracket_cutTag : CutsAtBracket cutTag := by
  refine ⟨fun quote => by cases quote <;> rfl, fun quote c => ?_⟩
  cases quote with
  | some quote => exact .inr ⟨_, fun cs => rfl⟩
  | none =>
      by_cases hc : c = '>'
      · exact .inl ⟨hc, fun cs => by rw [cutTag, if_pos hc]⟩
      · exact .inr ⟨_, fun cs => by rw [cutTag, if_neg hc]⟩

theorem cutsAtBracket_cutBalanced : CutsAtBracket cutBalanced := by
  refine ⟨fun depth => rfl, fun depth c => ?_⟩
  by_cases hclose : c = '>'
  · subst hclose
    cases depth with
    | zero => exact .inl ⟨rfl, fun cs => rfl⟩
    | succ depth => exact .inr ⟨depth, fun cs => rfl⟩
  · by_cases hopen : c = '<'
    · subst hopen
      exact .inr ⟨depth + 1, fun cs => rfl⟩
    · refine .inr ⟨depth, fun cs => ?_⟩
      rw [cutBalanced]
      · exact hopen
      · exact fun h => absurd h hclose
      · exact fun _ h => absurd h hclose

/-! ### Pieces of markup -/

/-- A token in markup is read from its source, whatever stands behind it. -/
def Token.IsMarked (t : Token) : Prop :=
  ∀ rest, ∃ cs, t.source ++ rest = '<' :: cs ∧ nextMarkup cs = .ok (t, rest)

theorem token_eq_ok_iff {make : List Char → Token} {fault : Fault}
    {cut : Option (List Char × List Char)} {t : Token} :
    token make fault cut = .ok (t, rest) ↔
      ∃ content, cut = some (content, rest) ∧ t = make content := by
  cases cut with
  | none => simp [token]
  | some p =>
      obtain ⟨content, rest'⟩ := p
      simp only [token, Except.ok.injEq, Prod.mk.injEq, Option.some.injEq]
      constructor
      · rintro ⟨rfl, rfl⟩
        exact ⟨content, ⟨rfl, rfl⟩, rfl⟩
      · rintro ⟨content', ⟨rfl, rfl⟩, rfl⟩
        exact ⟨rfl, rfl⟩

/-- A tag that does not begin like another piece of markup. -/
theorem nextMarkup_opening (h : ∀ c ∈ cs.head?, c ≠ '!' ∧ c ≠ '?' ∧ c ≠ '/') :
    nextMarkup cs = token .opening .unclosedTag (cutTag none cs) := by
  cases cs with
  | nil => rfl
  | cons c cs =>
      obtain ⟨hbang, hquestion, hslash⟩ := h c rfl
      unfold nextMarkup
      split
      case h_8 => rfl
      all_goals
        rename_i heq
        cases heq
        contradiction

theorem nextMarkup_doctype (hhead : cs.head? = some 'D' ∨ cs.head? = some 'd')
    (hdoctype : beginsDoctype content = true) (hcut : cutBalanced 0 cs = some (content, rest)) :
    nextMarkup ('!' :: cs) = .ok (.doctype content, rest) := by
  rw [nextMarkup, if_pos hhead, hcut]
  · exact if_pos hdoctype
  all_goals
    rintro tail rfl
    simp at hhead

theorem nextMarkup_instruction (h : cs.head? ≠ some '>') : nextMarkup ('?' :: cs) =
    token .instruction .unclosedInstruction (Text.cut? "?>".toList cs) := by
  rw [nextMarkup]
  rintro rest rfl
  exact h rfl

@[simp] theorem source_comment_append (content rest : List Char) :
    (Token.comment content).source ++ rest =
      '<' :: '!' :: '-' :: '-' :: (content ++ ("-->".toList ++ rest)) := by
  have hhead : "<!--".toList = ['<', '!', '-', '-'] := by decide
  change "<!--".toList ++ content ++ "-->".toList ++ rest = _
  rw [hhead]
  simp only [List.append_assoc, List.cons_append, List.nil_append]

@[simp] theorem source_cdata_append (content rest : List Char) :
    (Token.cdata content).source ++ rest =
      '<' :: '!' :: '[' :: ("CDATA[".toList ++ (content ++ ("]]>".toList ++ rest))) := by
  have hhead : "<![CDATA[".toList = '<' :: '!' :: '[' :: "CDATA[".toList := by decide
  change "<![CDATA[".toList ++ content ++ "]]>".toList ++ rest = _
  rw [hhead]
  simp only [List.append_assoc, List.cons_append]

@[simp] theorem source_doctype_append (content rest : List Char) :
    (Token.doctype content).source ++ rest = '<' :: '!' :: (content ++ '>' :: rest) := by
  change '<' :: '!' :: content ++ ['>'] ++ rest = _
  simp only [List.append_assoc, List.cons_append, List.nil_append]

@[simp] theorem source_instruction_append (content rest : List Char) :
    (Token.instruction content).source ++ rest =
      '<' :: '?' :: (content ++ ("?>".toList ++ rest)) := by
  have hmark : "?>".toList = ['?', '>'] := by decide
  change '<' :: '?' :: content ++ ['?', '>'] ++ rest = _
  rw [hmark]
  simp only [List.append_assoc, List.cons_append]

@[simp] theorem source_closing_append (content rest : List Char) :
    (Token.closing content).source ++ rest = '<' :: '/' :: (content ++ '>' :: rest) := by
  change '<' :: '/' :: content ++ ['>'] ++ rest = _
  simp only [List.append_assoc, List.cons_append, List.nil_append]

@[simp] theorem source_opening_append (content rest : List Char) :
    (Token.opening content).source ++ rest = '<' :: (content ++ '>' :: rest) := by
  change '<' :: content ++ ['>'] ++ rest = _
  simp only [List.append_assoc, List.cons_append, List.nil_append]

/-- The text behind a bracket is the source of a token and a rest, and the token would be read in
front of anything else. -/
def Token.Marks (t : Token) (cs rest : List Char) : Prop :=
  '<' :: cs = t.source ++ rest ∧ t.IsMarked

theorem marks_comment (hcut : Text.cut? "-->".toList cs = some (content, rest)) :
    (Token.comment content).Marks ('!' :: '-' :: '-' :: cs) rest := by
  obtain rfl := Text.eq_append_of_cut? hcut
  refine ⟨(source_comment_append ..).symm, fun rest' => ⟨_, source_comment_append .., ?_⟩⟩
  rw [nextMarkup, Text.cut?_append (by decide) hcut]
  rfl

theorem marks_cdata (hcut : Text.cut? "]]>".toList cs = some (content, rest)) :
    (Token.cdata content).Marks ('!' :: '[' :: ("CDATA[".toList ++ cs)) rest := by
  obtain rfl := Text.eq_append_of_cut? hcut
  refine ⟨(source_cdata_append ..).symm, fun rest' => ⟨_, source_cdata_append .., ?_⟩⟩
  rw [nextMarkup, Text.stripHead?_append]
  dsimp only
  rw [Text.cut?_append (by decide) hcut]
  rfl

theorem marks_doctype (hhead : cs.head? = some 'D' ∨ cs.head? = some 'd')
    (hdoctype : beginsDoctype content = true) (hcut : cutBalanced 0 cs = some (content, rest)) :
    (Token.doctype content).Marks ('!' :: cs) rest := by
  obtain rfl := cutsAtBracket_cutBalanced.eq_append hcut
  refine ⟨(source_doctype_append ..).symm, fun rest' => ⟨_, source_doctype_append .., ?_⟩⟩
  refine nextMarkup_doctype ?_ hdoctype (cutsAtBracket_cutBalanced.append hcut rest')
  cases content with
  | nil => cases hdoctype
  | cons c content => exact hhead

theorem marks_instruction (hhead : cs.head? ≠ some '>')
    (hcut : Text.cut? "?>".toList cs = some (content, rest)) :
    (Token.instruction content).Marks ('?' :: cs) rest := by
  obtain rfl := Text.eq_append_of_cut? hcut
  refine ⟨(source_instruction_append ..).symm, fun rest' => ⟨_, source_instruction_append .., ?_⟩⟩
  rw [nextMarkup_instruction, Text.cut?_append (by decide) hcut]
  · rfl
  · cases content with
    | nil =>
        have hmark : "?>".toList = ['?', '>'] := by decide
        rw [List.nil_append, hmark]
        exact fun h => absurd (Option.some.inj h) (by decide)
    | cons d content => exact hhead

theorem marks_closing (hcut : cutTag none cs = some (content, rest)) :
    (Token.closing content).Marks ('/' :: cs) rest := by
  obtain rfl := cutsAtBracket_cutTag.eq_append hcut
  refine ⟨(source_closing_append ..).symm, fun rest' => ⟨_, source_closing_append .., ?_⟩⟩
  rw [nextMarkup, cutsAtBracket_cutTag.append hcut]
  rfl

theorem marks_opening (hhead : ∀ c ∈ cs.head?, c ≠ '!' ∧ c ≠ '?' ∧ c ≠ '/')
    (hcut : cutTag none cs = some (content, rest)) : (Token.opening content).Marks cs rest := by
  obtain rfl := cutsAtBracket_cutTag.eq_append hcut
  refine ⟨(source_opening_append ..).symm, fun rest' => ⟨_, source_opening_append .., ?_⟩⟩
  rw [nextMarkup_opening, cutsAtBracket_cutTag.append hcut]
  · rfl
  · cases content with
    | nil =>
        rintro c ⟨⟩
        decide
    | cons d content => exact hhead

theorem marks_of_nextMarkup {t : Token} (h : nextMarkup cs = .ok (t, rest)) : t.Marks cs rest := by
  unfold nextMarkup at h
  split at h
  · obtain ⟨content, hcut, rfl⟩ := token_eq_ok_iff.mp h
    exact marks_comment hcut
  · cases h
  · split at h
    · rename_i hstrip
      obtain rfl := Text.eq_append_of_stripHead? hstrip
      obtain ⟨content, hcut, rfl⟩ := token_eq_ok_iff.mp h
      exact marks_cdata hcut
    · cases h
  · split at h
    · split at h
      · split at h
        · rename_i hhead _ content rest' hcut hdoctype
          cases h
          exact marks_doctype hhead hdoctype hcut
        · cases h
      · cases h
    · cases h
  · cases h
  · rename_i cs hempty
    obtain ⟨content, hcut, rfl⟩ := token_eq_ok_iff.mp h
    refine marks_instruction (fun hhead => ?_) hcut
    obtain ⟨tail, rfl⟩ := List.head?_eq_some_iff.mp hhead
    exact hempty tail rfl
  · obtain ⟨content, hcut, rfl⟩ := token_eq_ok_iff.mp h
    exact marks_closing hcut
  · rename_i hbang hempty hquestion hslash
    obtain ⟨content, hcut, rfl⟩ := token_eq_ok_iff.mp h
    refine marks_opening (fun c hc => ?_) hcut
    obtain ⟨tail, rfl⟩ := List.head?_eq_some_iff.mp hc
    refine ⟨?_, ?_, ?_⟩
    · rintro rfl
      exact hbang tail rfl
    · rintro rfl
      exact hquestion tail rfl
    · rintro rfl
      exact hslash tail rfl

/-! ### Documents as tokens -/

/-- A token is read from its source in front of a text. A run of text has to end there. -/
def Token.ReadsBefore (t : Token) (rest : List Char) : Prop :=
  t.IsMarked ∨ ∃ content, t = .text content ∧ content ≠ [] ∧ '<' ∉ content ∧
    ∀ c ∈ rest.head?, c = '<'

theorem readsBefore_of_next {c : Char} {t : Token} (h : next c cs = .ok (t, rest)) :
    c :: cs = t.source ++ rest ∧ t.ReadsBefore rest := by
  rw [next] at h
  split at h
  · rename_i hc
    obtain ⟨hsource, hmarked⟩ := marks_of_nextMarkup h
    rw [hc]
    exact ⟨hsource, .inl hmarked⟩
  · rename_i hc
    cases h
    refine ⟨?_, .inr ⟨_, rfl, List.cons_ne_nil _ _, ?_, fun d hd => ?_⟩⟩
    · change c :: cs = c :: cs.takeWhile (· != '<') ++ cs.dropWhile (· != '<')
      rw [List.cons_append, List.takeWhile_append_dropWhile]
    · rw [List.mem_cons, not_or]
      exact ⟨Ne.symm hc, fun hmem => by simpa using List.mem_takeWhile_imp hmem⟩
    · have hstop := List.head?_dropWhile_not (· != '<') cs
      rw [hd] at hstop
      simpa using hstop

theorem next_of_readsBefore {t : Token} (h : t.ReadsBefore rest) : ∃ c cs,
    t.source ++ rest = c :: cs ∧ next c cs = .ok (t, rest) := by
  rcases h with hmarked | ⟨content, rfl, hne, hmem, hrest⟩
  · obtain ⟨cs, hsource, hnext⟩ := hmarked rest
    exact ⟨'<', cs, hsource, by rw [next, if_pos rfl, hnext]⟩
  · obtain ⟨c, cs, rfl⟩ := List.exists_cons_of_ne_nil hne
    rw [List.mem_cons, not_or] at hmem
    refine ⟨c, cs ++ rest, rfl, ?_⟩
    have hcs : ∀ d ∈ cs, (d != '<') = true := by
      intro d hd
      rw [bne_iff_ne]
      rintro rfl
      exact hmem.2 hd
    obtain ⟨htake, hdrop⟩ := Text.span_append hcs fun d hd => by rw [hrest d hd]; rfl
    rw [next, if_neg (Ne.symm hmem.1), htake, hdrop]

/-- Tokens that are read from a text, one after the other and up to its end. -/
inductive Spells : List Token → List Char → Prop
  | nil : Spells [] []
  | cons {t : Token} {ts : List Token} {rest : List Char} :
      t.ReadsBefore rest → Spells ts rest → Spells (t :: ts) (t.source ++ rest)

theorem Spells.eq_flatMap {ts : List Token} (h : Spells ts cs) : cs = ts.flatMap Token.source := by
  induction h with
  | nil => rfl
  | cons _ _ ih => rw [List.flatMap_cons, ← ih]

theorem tokens_cons_of_next {c : Char} {t : Token} (h : next c cs = .ok (t, rest)) :
    tokens (c :: cs) = .cons t (tokens rest) := by
  rw [tokens]
  split
  · rename_i t' rest' h'
    rw [h] at h'
    cases h'
    rfl
  · rename_i e h'
    rw [h] at h'
    cases h'

theorem tokens_cons_of_error {c : Char} {fault : Fault} (h : next c cs = .error fault) :
    tokens (c :: cs) = .fail fault := by
  rw [tokens]
  split
  · rename_i t rest h'
    rw [h] at h'
    cases h'
  · rename_i e h'
    rw [h] at h'
    cases h'
    rfl

theorem spells_of_tokens {ts : List Token} (h : tokens cs = ⟨ts, none⟩) : Spells ts cs := by
  induction ts generalizing cs with
  | nil =>
      cases cs with
      | nil => exact .nil
      | cons c cs =>
          cases hnext : next c cs with
          | error fault =>
              rw [tokens_cons_of_error hnext] at h
              cases h
          | ok p =>
              rw [tokens_cons_of_next hnext] at h
              cases h
  | cons t ts ih =>
      cases cs with
      | nil =>
          rw [tokens] at h
          cases h
      | cons c cs =>
          cases hnext : next c cs with
          | error fault =>
              rw [tokens_cons_of_error hnext] at h
              cases h
          | ok p =>
              obtain ⟨t', rest⟩ := p
              rw [tokens_cons_of_next hnext, Run.cons, Run.mk.injEq, List.cons.injEq] at h
              obtain ⟨⟨rfl, hitems⟩, hstop⟩ := h
              obtain ⟨hsource, hreads⟩ := readsBefore_of_next hnext
              rw [hsource]
              exact .cons hreads (ih (by rw [← hitems, ← hstop]))

theorem tokens_of_spells {ts : List Token} (h : Spells ts cs) : tokens cs = ⟨ts, none⟩ := by
  induction h with
  | nil => rw [tokens]; rfl
  | cons hreads _ ih =>
      obtain ⟨c, cs, hsource, hnext⟩ := next_of_readsBefore hreads
      rw [hsource, tokens_cons_of_next hnext, ih]
      rfl

end Markup

end LayoutCompose
