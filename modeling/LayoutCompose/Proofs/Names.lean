import LayoutCompose.Kotlin.Name
import LayoutCompose.Text.Blank

/-!
The characters of names.

An identifier is cut into clusters and words, and nothing is added on the way. A name made of it
has the characters of the identifier in upper or lower case, which keeps ASCII letters, digits
and underscores what they are.
-/

namespace LayoutCompose

namespace Text

theorem mem_of_mem_clustersFrom {tail : Tail} {cs : List Char} {g : Cluster} {c : Char}
    (hg : g ∈ clustersFrom tail cs) (hc : c ∈ g) : c ∈ cs := by
  induction cs generalizing tail g with
  | nil => exact nomatch hg
  | cons d ds ih =>
      rw [clustersFrom] at hg
      split at hg
      · rw [List.mem_singleton] at hg
        rw [hg, List.mem_singleton] at hc
        exact hc ▸ List.mem_cons_self
      · rename_i first rest hfrom
        have hlater {g : Cluster} (hg : g ∈ first :: rest) (hc : c ∈ g) : c ∈ ds :=
          ih (hfrom ▸ hg) hc
        split at hg
        · rcases List.mem_cons.mp hg with rfl | hg
          · rcases List.mem_cons.mp hc with rfl | hc
            · exact List.mem_cons_self
            · exact List.mem_cons_of_mem _ (hlater List.mem_cons_self hc)
          · exact List.mem_cons_of_mem _ (hlater (List.mem_cons_of_mem _ hg) hc)
        · rcases List.mem_cons.mp hg with rfl | hg
          · rw [List.mem_singleton] at hc
            exact hc ▸ List.mem_cons_self
          · exact List.mem_cons_of_mem _ (hlater hg hc)

theorem mem_of_mem_wordsOf {gs : List Cluster} {w : List Char} {c : Char}
    (hw : w ∈ wordsOf gs) (hc : c ∈ w) : ∃ g ∈ gs, c ∈ g := by
  induction gs generalizing w with
  | nil =>
      rw [wordsOf, List.mem_singleton] at hw
      exact nomatch hw ▸ hc
  | cons g gs ih =>
      have hlater {w : List Char} (hw : w ∈ wordsOf gs) (hc : c ∈ w) :
          ∃ h ∈ g :: gs, c ∈ h :=
        (ih hw hc).imp fun h hh => ⟨List.mem_cons_of_mem _ hh.1, hh.2⟩
      rw [wordsOf] at hw
      split at hw
      · rcases List.mem_cons.mp hw with rfl | hw
        · exact nomatch hc
        · exact hlater hw hc
      · split at hw
        · rw [List.mem_singleton] at hw
          exact ⟨g, List.mem_cons_self, hw ▸ hc⟩
        · rename_i first rest hof
          rw [hof] at hlater
          split at hw
          · rcases List.mem_cons.mp hw with rfl | hw
            · exact ⟨w, List.mem_cons_self, hc⟩
            · exact hlater hw hc
          · rcases List.mem_cons.mp hw with rfl | hw
            · rcases List.mem_append.mp hc with hc | hc
              · exact ⟨g, List.mem_cons_self, hc⟩
              · exact hlater List.mem_cons_self hc
            · exact hlater (List.mem_cons_of_mem _ hw) hc

theorem mem_of_mem_words {cs w : List Char} {c : Char} (hw : w ∈ words cs) (hc : c ∈ w) :
    c ∈ cs := by
  obtain ⟨g, hg, hcg⟩ := mem_of_mem_wordsOf (List.mem_filter.mp hw).1 hc
  exact mem_of_mem_clustersFrom hg hcg

/-- A character of ASCII is one of the first 128, so that a fact about these can be checked. -/
theorem exists_ofNat {c : Char} (h : c.toNat < 128) : ∃ n : Fin 128, c = Char.ofNat n :=
  ⟨⟨c.toNat, h⟩, (Char.ofNat_toNat c).symm⟩

end Text

namespace Kotlin

theorem isNameChar_of_isName {cs : List Char} (h : Text.isName cs = true) :
    ∀ c ∈ cs, isNameChar c = true := by
  cases cs with
  | nil => exact fun c hc => nomatch hc
  | cons c cs =>
      simp only [Text.isName, Bool.and_eq_true, List.all_eq_true] at h
      rw [List.forall_mem_cons]
      refine ⟨?_, h.2⟩
      have hfirst := h.1
      simp only [isNameChar, Char.isAlphanum, Bool.or_eq_true] at hfirst ⊢
      exact hfirst.imp_left .inl

theorem toNat_lt_of_isNameChar {c : Char} (h : isNameChar c = true) : c.toNat < 128 := by
  change (decide ('A'.val ≤ c.val ∧ c.val ≤ 'Z'.val) ||
    (decide ('a'.val ≤ c.val) && decide (c.val ≤ 'z'.val)) ||
    (decide ('0'.val ≤ c.val) && decide (c.val ≤ '9'.val)) || c == '_') = true at h
  simp only [Bool.or_eq_true, Bool.and_eq_true, decide_eq_true_eq, beq_iff_eq,
    UInt32.le_iff_toNat_le] at h
  rcases h with ((⟨-, h⟩ | ⟨-, h⟩) | ⟨-, h⟩) | rfl
  · exact Nat.lt_of_le_of_lt h (by decide)
  · exact Nat.lt_of_le_of_lt h (by decide)
  · exact Nat.lt_of_le_of_lt h (by decide)
  · decide

theorem isNameChar_recased {c : Char} (h : isNameChar c = true) :
    isNameChar c.toUpper = true ∧ isNameChar c.toLower = true := by
  have hascii : ∀ n : Fin 128, isNameChar (Char.ofNat n) = true →
      isNameChar (Char.ofNat n).toUpper = true ∧ isNameChar (Char.ofNat n).toLower = true := by
    decide
  obtain ⟨n, rfl⟩ := Text.exists_ofNat (toNat_lt_of_isNameChar h)
  exact hascii n h

theorem isNameChar_lowerFrom {before cs : List Char} (h : ∀ c ∈ cs, isNameChar c = true) :
    ∀ c ∈ Text.lowerFrom before cs, isNameChar c = true := by
  induction cs generalizing before with
  | nil => exact fun c hc => nomatch hc
  | cons d ds ih =>
      rw [List.forall_mem_cons] at h
      have hsigma : d ≠ 'Σ' := by
        rintro rfl
        exact absurd h.1 (by decide)
      intro c hc
      rw [Text.lowerFrom, if_neg hsigma, Text.lower, if_pos (toNat_lt_of_isNameChar h.1),
        List.mem_append, List.mem_singleton] at hc
      rcases hc with rfl | hc
      · exact (isNameChar_recased h.1).2
      · exact ih h.2 c hc

theorem isNameChar_capitalize {cs : List Char} (h : ∀ c ∈ cs, isNameChar c = true) :
    ∀ c ∈ Text.capitalize cs, isNameChar c = true := by
  cases cs with
  | nil => exact fun c hc => nomatch hc
  | cons d ds =>
      rw [List.forall_mem_cons] at h
      intro c hc
      rw [Text.capitalize, Text.upper, if_pos (toNat_lt_of_isNameChar h.1), List.mem_append,
        List.mem_singleton] at hc
      rcases hc with rfl | hc
      · exact (isNameChar_recased h.1).1
      · exact isNameChar_lowerFrom h.2 c hc

/-- Camel case keeps to the characters of names. -/
theorem isNameChar_camelCase {cs : List Char} (h : ∀ c ∈ cs, isNameChar c = true) :
    ∀ c ∈ Text.camelCase cs, isNameChar c = true := by
  have hwords : ∀ w ∈ Text.words cs, ∀ c ∈ w, isNameChar c = true := fun w hw c hc =>
    h c (Text.mem_of_mem_words hw hc)
  unfold Text.camelCase
  split
  · exact fun c hc => nomatch hc
  · rename_i w ws heq
    rw [heq, List.forall_mem_cons] at hwords
    intro c hc
    rw [List.mem_append, List.mem_flatMap] at hc
    rcases hc with hc | ⟨v, hv, hc⟩
    · exact isNameChar_lowerFrom hwords.1 c hc
    · exact isNameChar_capitalize (hwords.2 v hv) c hc

end Kotlin

end LayoutCompose
