import LayoutCompose.Proofs.TrimmedText
import LayoutCompose.Proofs.WellTyped

/-!
The text of ranges.

A range is written with two points or in square brackets. The points of the first form could be
confused with those of the numbers next to them. But a numeral has at most one point, so the two
points of the range are the first ones that stand together, unless the lower bound ends with a
point of its own. In both forms the bounds may have white space around them.
-/

namespace LayoutCompose

/-! ### Numerals -/

namespace Decimal

variable {cs : List Char}

def isPointless (c : Char) : Bool :=
  c.isDigit || c == '-' || c == '+' || c == 'e' || c == 'E'

theorem isPointless_of_isDigit {c : Char} (h : c.isDigit = true) : isPointless c = true := by
  simp [isPointless, h]

theorem exists_sign (cs : List Char) :
    ∃ sign, cs = sign ++ (splitSign cs).2 ∧ ∀ c ∈ sign, isPointless c = true := by
  unfold splitSign
  split
  · exact ⟨['-'], rfl, by simp [isPointless]⟩
  · exact ⟨['+'], rfl, by simp [isPointless]⟩
  · exact ⟨[], rfl, by simp⟩

theorem isPointless_of_readExponent? {e : Int} (h : readExponent? cs = some e) :
    ∀ c ∈ cs, isPointless c = true := by
  unfold readExponent? at h
  split at h
  · intro c hc
    cases hc
  · rename_i mark rest
    split at h
    · rename_i hmark
      obtain ⟨sign, hrest, hsign⟩ := exists_sign rest
      dsimp only at h
      split at h
      · cases h
      · rename_i hdigits
        simp only [Bool.or_eq_true, Bool.not_eq_true', not_or, Bool.not_eq_false,
          List.all_eq_true] at hdigits
        rw [List.forall_mem_cons, hrest]
        refine ⟨?_, ?_⟩
        · rcases hmark with rfl | rfl
          · rfl
          · rfl
        · intro c hc
          rcases List.mem_append.mp hc with hc | hc
          · exact hsign c hc
          · exact isPointless_of_isDigit (hdigits.2 c hc)
    · cases h

/-- A numeral is a run of other characters, or it is two such runs with a point in between. -/
theorem exists_runs {d : Decimal} (h : read? cs = some d) : ∃ front back,
    (cs = front ++ back ∨ cs = front ++ '.' :: back) ∧
      ∀ c ∈ front ++ back, isPointless c = true := by
  have hrun (ds : List Char) : ∀ c ∈ ds.takeWhile Char.isDigit, isPointless c = true :=
    fun c hc => isPointless_of_isDigit (List.mem_takeWhile_imp hc)
  obtain ⟨sign, hcs, hsign⟩ := exists_sign cs
  unfold read? at h
  dsimp only at h
  generalize (splitSign cs).2 = unsigned at hcs h
  have hwhole : unsigned = unsigned.takeWhile Char.isDigit ++ unsigned.dropWhile Char.isDigit :=
    List.takeWhile_append_dropWhile.symm
  split at h
  · rename_i rest hrest
    have hplaces : rest = rest.takeWhile Char.isDigit ++ rest.dropWhile Char.isDigit :=
      List.takeWhile_append_dropWhile.symm
    split at h
    · cases h
    · obtain ⟨e, he, -⟩ := Option.map_eq_some_iff.mp h
      refine ⟨sign ++ unsigned.takeWhile Char.isDigit, rest, .inr ?_, ?_⟩
      · rw [hcs, List.append_assoc, ← hrest, ← hwhole]
      · rw [hplaces]
        simp only [List.forall_mem_append]
        exact ⟨⟨hsign, hrun unsigned⟩, hrun rest, isPointless_of_readExponent? he⟩
  · split at h
    · cases h
    · obtain ⟨e, he, -⟩ := Option.map_eq_some_iff.mp h
      refine ⟨sign, unsigned, .inl hcs, ?_⟩
      rw [hwhole]
      simp only [List.forall_mem_append]
      exact ⟨hsign, hrun unsigned, isPointless_of_readExponent? he⟩

theorem ne_nil_of_read? {d : Decimal} (h : read? cs = some d) : cs ≠ [] := by
  rintro rfl
  cases h

theorem point_not_mem (h : ∀ c ∈ cs, isPointless c = true) : '.' ∉ cs :=
  fun hmem => absurd (h '.' hmem) (by decide)

theorem count_point_of_read? {d : Decimal} (h : read? cs = some d) : cs.count '.' ≤ 1 := by
  obtain ⟨front, back, hcs, hpointless⟩ := exists_runs h
  rw [List.forall_mem_append] at hpointless
  have hfront : front.count '.' = 0 := List.count_eq_zero.mpr (point_not_mem hpointless.1)
  have hback : back.count '.' = 0 := List.count_eq_zero.mpr (point_not_mem hpointless.2)
  rcases hcs with rfl | rfl
  · rw [List.count_append, hfront, hback]
    decide
  · rw [List.count_append, List.count_cons_self, hfront, hback]

/-- A character that is neither a point nor one of the others does not stand in a numeral. -/
theorem not_mem_of_read? {d : Decimal} (h : read? cs = some d) {c : Char}
    (hc : isPointless c = false) (hpoint : c ≠ '.') : c ∉ cs := by
  obtain ⟨front, back, hcs, hpointless⟩ := exists_runs h
  have hruns : c ∉ front ++ back := fun hmem => by simp [hpointless c hmem] at hc
  rw [List.mem_append, not_or] at hruns
  rcases hcs with rfl | rfl
  · simp [hruns]
  · simp [hruns, hpoint]

end Decimal

/-- The white space around a numeral does not matter. -/
theorem Single.read_congr {s t : String} (h : Text.trim s.toList = Text.trim t.toList) :
    Single.read s = Single.read t := by
  unfold Single.read
  rw [h]

theorem Single.exists_decimal_of_read {s : String} {x : Single} (h : Single.read s = .ok x) :
    ∃ d, Decimal.read? (Text.trim s.toList) = some d := by
  unfold Single.read at h
  dsimp only at h
  split at h
  · rename_i d hd
    exact ⟨d, hd⟩
  · cases h

namespace Span

variable {a b : String} {x y : Single}

/-! ### Bounds -/

@[simp] theorem unbracket?_brackets (cs : List Char) :
    unbracket? ('[' :: (cs ++ [']'])) = some cs := by
  simp [unbracket?]

theorem eq_of_unbracket? {cs inner : List Char} (h : unbracket? cs = some inner) :
    cs = '[' :: (inner ++ [']']) := by
  unfold unbracket? at h
  split at h
  · split at h
    · rename_i rest hlast
      obtain rfl := Option.some.inj h
      rw [List.dropLast_append_getLast? _ hlast]
    · cases h
  · cases h

theorem unbracket?_eq_none {cs : List Char} (h : '[' ∉ cs.head?) : unbracket? cs = none := by
  unfold unbracket?
  split
  · exact absurd rfl h
  · rfl

/-- Behind a text with at most one point, which is not at its end, two points do not begin any
earlier. -/
theorem points_not_within {cs : List Char} (hcount : cs.count '.' ≤ 1)
    (hlast : cs.getLast? ≠ some '.') : ¬ ['.', '.'] <:+: cs ++ ['.'] := by
  rw [List.infix_concat_iff]
  rintro (⟨front, hfront⟩ | hwithin)
  · have hcs : front ++ ['.'] = cs := by
      rw [← List.append_left_inj ['.'], ← hfront]
      simp
    rw [← hcs, List.getLast?_concat] at hlast
    exact hlast rfl
  · have htwo := hwithin.sublist.count_le '.'
    rw [List.count_cons_self, List.count_cons_self] at htwo
    omega

/-- Two points behind a numeral, which has no point at its end, are the first two of a text. -/
theorem cut?_points {n gap : List Char} {d : Decimal} (hd : Decimal.read? n = some d)
    (hpoint : n.getLast? ≠ some '.') (hgap : ∀ c ∈ gap, Text.isBlank c = true)
    (rest : List Char) :
    Text.cut? ['.', '.'] (n ++ gap ++ (['.', '.'] ++ rest)) = some (n ++ gap, rest) := by
  have hgap_point : '.' ∉ gap := Text.not_mem_of_isBlank hgap (by decide)
  refine Text.cut?_of_begins_first (by simp) (points_not_within ?_ ?_) rest
  · rw [List.count_append, List.count_eq_zero.mpr hgap_point]
    exact Decimal.count_point_of_read? hd
  · intro hlast
    rw [List.getLast?_append, Option.or_eq_some_iff] at hlast
    rcases hlast with hlast | ⟨-, hlast⟩
    · exact hgap_point (List.mem_of_getLast? hlast)
    · exact hpoint hlast

/-- Two points between two numbers cut the text into these numbers. -/
theorem bounds?_points (ha : Single.read a = .ok x) (hb : Single.read b = .ok y)
    (hpoint : (Text.trim a.toList).getLast? ≠ some '.') :
    ∃ lower upper, bounds? (a ++ ".." ++ b) = some (lower, upper) ∧
      Text.trim lower = Text.trim a.toList ∧ Text.trim upper = Text.trim b.toList := by
  obtain ⟨d, hd⟩ := Single.exists_decimal_of_read ha
  obtain ⟨e, he⟩ := Single.exists_decimal_of_read hb
  obtain ⟨before, gap, hasplit, hbefore, hgap⟩ := Text.exists_blanks_trim a.toList
  obtain ⟨gap', after, hbsplit, hgap', hafter⟩ := Text.exists_blanks_trim b.toList
  have hasolid := Text.isSolid_trim a.toList
  have hbsolid := Text.isSolid_trim b.toList
  generalize Text.trim a.toList = n at *
  generalize Text.trim b.toList = m at *
  have hn : n ≠ [] := Decimal.ne_nil_of_read? hd
  have hm : m ≠ [] := Decimal.ne_nil_of_read? he
  have htext : (a ++ ".." ++ b).toList =
      before ++ (n ++ ((gap ++ ('.' :: '.' :: gap')) ++ m) ++ after) := by
    simp [hasplit, hbsplit]
  have htrim := Text.trim_append hbefore hafter
    (hasolid.between hbsolid hn hm (gap ++ ('.' :: '.' :: gap')))
  have hbracket : '[' ∉ (n ++ ((gap ++ ('.' :: '.' :: gap')) ++ m)).head? := by
    intro hhead
    rw [List.head?_append_of_ne_nil _ hn] at hhead
    exact Decimal.not_mem_of_read? hd (by decide) (by decide) (List.mem_of_head? hhead)
  refine ⟨n ++ gap, gap' ++ m, ?_, ?_, ?_⟩
  · unfold bounds?
    dsimp only
    rw [htext, htrim, unbracket?_eq_none hbracket, ← cut?_points hd hpoint hgap]
    simp
  · simpa using Text.trim_append (List.forall_mem_nil _) hgap hasolid
  · simpa using Text.trim_append hgap' (List.forall_mem_nil _) hbsolid

/-- Brackets around two texts with a comma in between hold these texts, if the first one is a
number. -/
theorem bounds?_brackets (ha : Single.read a = .ok x) (b : String) :
    ∃ lower upper, bounds? ("[" ++ a ++ ", " ++ b ++ "]") = some (lower, upper) ∧
      Text.trim lower = Text.trim a.toList ∧ Text.trim upper = Text.trim b.toList := by
  have hcomma : ',' ∉ a.toList := by
    obtain ⟨d, hd⟩ := Single.exists_decimal_of_read ha
    obtain ⟨before, after, hsplit, hbefore, hafter⟩ := Text.exists_blanks_trim a.toList
    rw [hsplit, List.mem_append, List.mem_append, not_or, not_or]
    exact ⟨Text.not_mem_of_isBlank hbefore (by decide),
      Decimal.not_mem_of_read? hd (by decide) (by decide),
      Text.not_mem_of_isBlank hafter (by decide)⟩
  have htext : ("[" ++ a ++ ", " ++ b ++ "]").toList =
      ['['] ++ (a.toList ++ ',' :: ' ' :: b.toList ++ [']']) := by
    simp
  have hsolid : Text.IsSolid (['['] ++ (a.toList ++ ',' :: ' ' :: b.toList ++ [']'])) :=
    (Text.isSolid_singleton rfl).between (Text.isSolid_singleton rfl) (by simp) (by simp) _
  have hspace : ∀ c ∈ [' '], Text.isBlank c = true := by
    intro c hc
    rw [List.mem_singleton.mp hc]
    rfl
  refine ⟨a.toList, ' ' :: b.toList, ?_, rfl, ?_⟩
  · unfold bounds?
    dsimp only
    rw [htext, Text.trim_of_isSolid hsolid, List.singleton_append, unbracket?_brackets]
    exact Text.cut?_of_not_mem hcomma _
  · exact Text.trim_blanks_append hspace b.toList

/-! ### Reading -/

theorem read_of_bounds? {s : String} {lower upper : List Char}
    (hbounds : bounds? s = some (lower, upper)) (hlower : Text.trim lower = Text.trim a.toList)
    (hupper : Text.trim upper = Text.trim b.toList) (ha : Single.read a = .ok x)
    (hb : Single.read b = .ok y) :
    read s = if y.lt x then .error .orderedSpan else .ok ⟨x, y⟩ := by
  have hx : Single.read (String.ofList lower) = .ok x := by
    rw [← ha]
    exact Single.read_congr (by rw [String.toList_ofList, hlower])
  have hy : Single.read (String.ofList upper) = .ok y := by
    rw [← hb]
    exact Single.read_congr (by rw [String.toList_ofList, hupper])
  unfold read
  rw [hbounds]
  dsimp only
  rw [hx, hy]

theorem exists_bounds_of_read {s : String} {r : Span} (h : read s = .ok r) :
    ∃ lower upper, bounds? s = some (lower, upper) ∧
      Single.read (String.ofList lower) = .ok r.lower ∧
        Single.read (String.ofList upper) = .ok r.upper := by
  unfold read at h
  split at h
  · cases h
  · rename_i lower upper hbounds
    split at h
    · rename_i hx hy
      split at h
      · cases h
      · obtain rfl := Except.ok.inj h
        exact ⟨lower, upper, hbounds, hx, hy⟩
    · cases h

theorem trimmed_of_bounds? {s : String} {lower upper : List Char}
    (h : bounds? s = some (lower, upper)) :
    trimmed s = String.ofList lower ++ ".." ++ String.ofList upper ∨
      trimmed s = "[" ++ String.ofList lower ++ "," ++ String.ofList upper ++ "]" := by
  unfold bounds? at h
  dsimp only at h
  split at h
  · rename_i inner hinner
    right
    rw [trimmed, eq_of_unbracket? hinner, Text.eq_append_of_cut? h]
    simp [String.ofList_append, String.ext_iff]
  · left
    rw [trimmed, Text.eq_append_of_cut? h]
    simp [String.ext_iff]

/-- Both spellings of a range are read as the numbers that they are made of, if these are in order,
and else are refused for that reason. Every range that is read has its bounds in order, and is
spelled in one of the two ways with two texts that are read as its bounds. -/
theorem read_either_spelling :
    (∀ (a b : String) (x y : Single), Single.read a = .ok x → Single.read b = .ok y →
      (Text.trim a.toList).getLast? ≠ some '.' →
      ∀ s ∈ [a ++ ".." ++ b, "[" ++ a ++ ", " ++ b ++ "]"],
        (x.le y = true → read s = .ok ⟨x, y⟩) ∧
        (y.lt x = true → read s = .error .orderedSpan)) ∧
    ∀ (s : String) (r : Span), read s = .ok r → r.lower.le r.upper = true ∧
      ∃ a b : String, Single.read a = .ok r.lower ∧ Single.read b = .ok r.upper ∧
        (trimmed s = a ++ ".." ++ b ∨ trimmed s = "[" ++ a ++ "," ++ b ++ "]") := by
  constructor
  · intro a b x y ha hb hpoint s hs
    have hread : read s = if y.lt x then .error .orderedSpan else .ok ⟨x, y⟩ := by
      rw [List.mem_pair] at hs
      rcases hs with rfl | rfl
      · obtain ⟨lower, upper, hbounds, hlower, hupper⟩ := bounds?_points ha hb hpoint
        exact read_of_bounds? hbounds hlower hupper ha hb
      · obtain ⟨lower, upper, hbounds, hlower, hupper⟩ := bounds?_brackets ha b
        exact read_of_bounds? hbounds hlower hupper ha hb
    rw [hread]
    constructor
    · intro hle
      have hlt : y.lt x = false :=
        (Single.lt_eq_false_iff (Single.isFinite_of_read hb) (Single.isFinite_of_read ha)).mpr hle
      rw [if_neg (by simp [hlt])]
    · intro hlt
      rw [if_pos hlt]
  · intro s r h
    obtain ⟨lower, upper, hbounds, hlower, hupper⟩ := exists_bounds_of_read h
    exact ⟨(proper_of_read h).lower_le_upper, _, _, hlower, hupper, trimmed_of_bounds? hbounds⟩

/-- Three points in a row: the third one belongs to the upper bound. -/
theorem read_either_spelling_three_points :
    Single.read "-.5 " = .ok ⟨true, 126, 0⟩ ∧ Single.read ".5" = .ok ⟨false, 126, 0⟩ ∧
      read ("-.5 " ++ ".." ++ ".5") = .ok ⟨⟨true, 126, 0⟩, ⟨false, 126, 0⟩⟩ ∧
      read ("[" ++ ".5" ++ ", " ++ "-.5 " ++ "]") = .error .orderedSpan ∧
      ∃ a b : String, Single.read a = .ok ⟨true, 126, 0⟩ ∧ Single.read b = .ok ⟨false, 126, 0⟩ ∧
        (trimmed "-.5 ...5" = a ++ ".." ++ b ∨
          trimmed "-.5 ...5" = "[" ++ a ++ "," ++ b ++ "]") := by
  have hlower : Single.read "-.5 " = .ok ⟨true, 126, 0⟩ := by decide +kernel
  have hupper : Single.read ".5" = .ok ⟨false, 126, 0⟩ := by decide +kernel
  have hread : read ("-.5 " ++ ".." ++ ".5") = .ok ⟨⟨true, 126, 0⟩, ⟨false, 126, 0⟩⟩ :=
    (read_either_spelling.1 _ _ _ _ hlower hupper (by decide) _ (by simp)).1 (by decide +kernel)
  refine ⟨hlower, hupper, hread, ?_, (read_either_spelling.2 _ _ hread).2⟩
  exact (read_either_spelling.1 _ _ _ _ hupper hlower (by decide) _ (by simp)).2 (by decide +kernel)

end Span

end LayoutCompose
