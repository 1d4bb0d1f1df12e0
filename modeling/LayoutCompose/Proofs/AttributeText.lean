import LayoutCompose.Markup.RawAttribute
import Mathlib.Data.List.Nodup
import Mathlib.Data.List.TakeWhile

/-!
The text of the attributes in a tag.

A well-formed attribute is a key, an equals sign and a value in quotes of either kind. The rest of
a tag is read without a flaw exactly if it is the text of such attributes, with white space
between them, and no key is repeated; the attributes are then read as they are written.
-/

namespace LayoutCompose.Markup

/-- An attribute without its place in the tag: its key and its value as they are written. -/
def RawAttribute.written (raw : RawAttribute) : List Char × List Char :=
  (raw.key, raw.value)

/-- The text of one attribute, its key with its value, in front of the text `rest`. White space may
stand around the equals sign. -/
inductive AttributeSpelled : List Char × List Char → List Char → List Char → Prop
  | mk {c quote : Char} {key gap gap' value rest : List Char} :
      isSpace c = false → (∀ d ∈ key, isKeyEnd d = false) →
      (∀ d ∈ gap, isSpace d = true) → (∀ d ∈ gap', isSpace d = true) →
      quote = '"' ∨ quote = '\'' → quote ∉ value →
      AttributeSpelled (c :: key, value)
        (c :: (key ++ (gap ++ '=' :: (gap' ++ quote :: (value ++ quote :: rest))))) rest

/-- The text of attributes one after the other, with white space between them. -/
inductive AttributesSpelled : List (List Char × List Char) → List Char → Prop
  | nil {blank : List Char} : (∀ c ∈ blank, isSpace c = true) → AttributesSpelled [] blank
  | cons {blank cs rest : List Char} {a : List Char × List Char}
      {as : List (List Char × List Char)} :
      (∀ c ∈ blank, isSpace c = true) → AttributeSpelled a cs rest → AttributesSpelled as rest →
      AttributesSpelled (a :: as) (blank ++ cs)

theorem takeWhile_append_cons {α : Type} {p : α → Bool} {l r : List α} {c : α}
    (hl : ∀ x ∈ l, p x = true) (hc : p c = false) : (l ++ c :: r).takeWhile p = l := by
  rw [List.takeWhile_append_of_pos hl, List.takeWhile_cons_of_neg (by simp [hc]), List.append_nil]

theorem dropWhile_append_cons {α : Type} {p : α → Bool} {l r : List α} {c : α}
    (hl : ∀ x ∈ l, p x = true) (hc : p c = false) : (l ++ c :: r).dropWhile p = c :: r := by
  rw [List.dropWhile_append_of_pos hl, List.dropWhile_cons_of_neg (by simp [hc])]

theorem readValue_of_spelled {length : Nat} {gap value rest : List Char} {quote : Char}
    (hgap : ∀ c ∈ gap, isSpace c = true) (hquote : quote = '"' ∨ quote = '\'')
    (hvalue : quote ∉ value) :
    readValue length (gap ++ quote :: (value ++ quote :: rest)) = .ok (value, rest) := by
  have hspace : isSpace quote = false := by rcases hquote with rfl | rfl <;> decide
  have hin : ∀ c ∈ value, (c != quote) = true := by
    intro c hc
    rw [bne_iff_ne]
    rintro rfl
    exact hvalue hc
  have hout : (quote != quote) = false := by simp
  unfold readValue
  rw [dropWhile_append_cons hgap hspace]
  simp only [if_pos hquote, dropWhile_append_cons hin hout, takeWhile_append_cons hin hout]

theorem spelled_of_readValue {length : Nat} {cs value rest : List Char}
    (h : readValue length cs = .ok (value, rest)) :
    ∃ gap quote, (∀ c ∈ gap, isSpace c = true) ∧ (quote = '"' ∨ quote = '\'') ∧
      quote ∉ value ∧ cs = gap ++ quote :: (value ++ quote :: rest) := by
  unfold readValue at h
  split at h
  · cases h
  · rename_i quote ds hds
    split at h
    · rename_i hquote
      split at h
      · cases h
      · rename_i d es hes
        obtain rfl : d = quote := by
          simpa [hes] using List.head?_dropWhile_not (· != quote) ds
        cases h
        refine ⟨cs.takeWhile isSpace, d, fun c hc => List.mem_takeWhile_imp hc, hquote, ?_, ?_⟩
        · intro hmem
          simpa using List.mem_takeWhile_imp hmem
        · rw [← hes, List.takeWhile_append_dropWhile, ← hds, List.takeWhile_append_dropWhile]
    · cases h

/-- An attribute is read as it is written, unless its key has been seen. -/
theorem readAttribute_of_spelled {length : Nat} {seen : List (List Char × Nat)}
    {a : List Char × List Char} {c : Char} {cs rest : List Char}
    (h : AttributeSpelled a (c :: cs) rest) :
    let position := length - Text.byteLength (c :: cs)
    readAttribute length seen c cs =
      match seen.lookup a.1 with
      | some previous => .error (.duplicated position previous)
      | none => .ok (⟨position, a.1, a.2⟩, rest) := by
  intro position
  cases h with
  | @mk _ quote key gap gap' value _ _ hkey hgap hgap' hquote hvalue =>
      have hin : ∀ d ∈ key, (!isKeyEnd d) = true := by simpa using hkey
      obtain ⟨d, ds, hds, hd⟩ : ∃ d ds, gap ++ '=' :: (gap' ++ quote :: (value ++ quote :: rest)) =
          d :: ds ∧ (!isKeyEnd d) = false := by
        cases gap with
        | nil => exact ⟨_, _, rfl, rfl⟩
        | cons d gap => exact ⟨d, _, rfl, by simp [isKeyEnd, hgap d (List.mem_cons_self ..)]⟩
      have htake := takeWhile_append_cons (r := ds) hin hd
      have hdrop := dropWhile_append_cons (r := ds) hin hd
      rw [← hds] at htake hdrop
      have hequals := dropWhile_append_cons (r := gap' ++ quote :: (value ++ quote :: rest)) hgap
        (show isSpace '=' = false by decide)
      unfold readAttribute
      simp only [htake, hdrop, hequals, readValue_of_spelled hgap' hquote hvalue]
      cases seen.lookup (c :: key) <;> rfl

theorem spelled_of_readAttribute {length : Nat} {seen : List (List Char × Nat)} {c : Char}
    {cs rest : List Char} {a : RawAttribute} (hc : isSpace c = false)
    (h : readAttribute length seen c cs = .ok (a, rest)) :
    AttributeSpelled a.written (c :: cs) rest := by
  unfold readAttribute at h
  simp only at h
  split at h
  · rename_i ds hds
    split at h
    · cases h
    · cases hvalue : readValue length ds with
      | error fault =>
          rw [hvalue] at h
          cases h
      | ok found =>
          obtain ⟨value, rest'⟩ := found
          rw [hvalue] at h
          cases h
          obtain ⟨gap', quote, hgap', hquote, hmem, rfl⟩ := spelled_of_readValue hvalue
          have hcs : cs = cs.takeWhile (fun d => !isKeyEnd d) ++
              ((cs.dropWhile fun d => !isKeyEnd d).takeWhile isSpace ++
                '=' :: (gap' ++ quote :: (value ++ quote :: rest'))) := by
            rw [← hds, List.takeWhile_append_dropWhile, List.takeWhile_append_dropWhile]
          have hkey : ∀ d ∈ cs.takeWhile (fun d => !isKeyEnd d), isKeyEnd d = false :=
            fun d hd => by simpa using List.mem_takeWhile_imp hd
          change AttributeSpelled (c :: cs.takeWhile (fun d => !isKeyEnd d), value) _ rest'
          nth_rewrite 2 [hcs]
          exact .mk hc hkey (fun d hd => List.mem_takeWhile_imp hd) hgap' hquote hmem
  · cases h

theorem attributesFrom_blank {length : Nat} {seen : List (List Char × Nat)} {blank : List Char}
    (hblank : ∀ c ∈ blank, isSpace c = true) : attributesFrom length seen blank = .nil := by
  have hdrop := List.dropWhile_eq_nil_iff.mpr hblank
  rw [attributesFrom]
  split
  · rfl
  · rename_i hc
    rw [hdrop] at hc
    cases hc

theorem attributesFrom_cons {length : Nat} {seen : List (List Char × Nat)}
    {blank cs : List Char} {c : Char} (hblank : ∀ c ∈ blank, isSpace c = true)
    (hc : isSpace c = false) :
    attributesFrom length seen (blank ++ c :: cs) =
      match readAttribute length seen c cs with
      | .ok (a, rest) => .cons a (attributesFrom length ((a.key, a.position) :: seen) rest)
      | .error e => .fail e := by
  have hdrop := dropWhile_append_cons (r := cs) hblank hc
  rw [attributesFrom]
  split
  · rename_i hd
    rw [hdrop] at hd
    cases hd
  · rename_i d ds hd
    rw [hdrop] at hd
    cases hd
    split <;> rename_i h <;> rw [h]

theorem forall_lookup_cons_eq_none {as : List (List Char × List Char)}
    {seen : List (List Char × Nat)} {key : List Char} {position : Nat} :
    (∀ a ∈ as, ((key, position) :: seen).lookup a.1 = none) ↔
      key ∉ as.map Prod.fst ∧ ∀ a ∈ as, seen.lookup a.1 = none := by
  induction as with
  | nil => simp
  | cons a as ih =>
      rw [List.forall_mem_cons, ih, List.forall_mem_cons, List.lookup_cons, List.map_cons,
        List.mem_cons, not_or]
      by_cases h : a.1 = key
      · simp [h]
      · simp only [beq_eq_false_iff_ne.mpr h, Ne.symm h, not_false_eq_true, true_and]
        exact and_left_comm

/-- Attributes are read as they are written, unless a key is repeated. -/
theorem attributesFrom_of_spelled {as : List (List Char × List Char)} {cs : List Char}
    (h : AttributesSpelled as cs) (length : Nat) (seen : List (List Char × Nat)) :
    ((attributesFrom length seen cs).stop = none ↔
      (as.map Prod.fst).Nodup ∧ ∀ a ∈ as, seen.lookup a.1 = none) ∧
    ((attributesFrom length seen cs).stop = none →
      (attributesFrom length seen cs).items.map RawAttribute.written = as) := by
  induction h generalizing seen with
  | nil hblank => simp [attributesFrom_blank hblank, Run.nil]
  | @cons blank cs rest a as hblank ha _ ih =>
      obtain ⟨c, ds, rfl, hc⟩ : ∃ c ds, cs = c :: ds ∧ isSpace c = false := by
        cases ha with
        | mk hc => exact ⟨_, _, rfl, hc⟩
      rw [attributesFrom_cons hblank hc, readAttribute_of_spelled ha, List.forall_mem_cons]
      cases hseen : seen.lookup a.1 with
      | some previous => simp [Run.fail]
      | none =>
          simp only [Run.cons, List.map_cons, List.nodup_cons, true_and]
          constructor
          · rw [(ih _).1, forall_lookup_cons_eq_none, and_left_comm, and_assoc]
          · intro hstop
            rw [(ih _).2 hstop]
            rfl

theorem spelled_of_attributesFrom {length : Nat} {seen : List (List Char × Nat)}
    {cs : List Char} (h : (attributesFrom length seen cs).stop = none) :
    AttributesSpelled ((attributesFrom length seen cs).items.map RawAttribute.written) cs := by
  fun_induction attributesFrom length seen cs with
  | case1 seen cs hcs => exact .nil (List.dropWhile_eq_nil_iff.mp hcs)
  | case2 seen cs c ds hcs a rest hread ih =>
      have hc : isSpace c = false := by
        simpa [hcs] using List.head?_dropWhile_not isSpace cs
      rw [← List.takeWhile_append_dropWhile (p := isSpace) (l := cs), hcs]
      exact .cons (fun c hc => List.mem_takeWhile_imp hc) (spelled_of_readAttribute hc hread) (ih h)
  | case3 seen cs c ds hcs e hread => cases h

theorem Tag.attributes_of_spelled {tag : Tag} {as : List (List Char × List Char)}
    (h : AttributesSpelled as tag.rest) :
    (tag.attributes.stop = none ↔ (as.map Prod.fst).Nodup) ∧
      (tag.attributes.stop = none → tag.attributes.items.map RawAttribute.written = as) := by
  have hfrom := attributesFrom_of_spelled h (Text.byteLength (tag.name ++ tag.rest)) []
  rw [← Tag.attributes] at hfrom
  simpa using hfrom

theorem Tag.spelled_attributes {tag : Tag} (h : tag.attributes.stop = none) :
    AttributesSpelled (tag.attributes.items.map RawAttribute.written) tag.rest :=
  spelled_of_attributesFrom h

end LayoutCompose.Markup
