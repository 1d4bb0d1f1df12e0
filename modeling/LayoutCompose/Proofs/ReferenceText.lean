import LayoutCompose.Kotlin.Expression
import LayoutCompose.Proofs.Names
import LayoutCompose.Proofs.TrimmedText

/-!
The text of references.

The kind of a reference is written in small letters alone, so neither the marks in front of it nor
the slash behind it can be taken for a part of it. A text is therefore the spelling of at most one
reference, and the same holds for the constants that references become: what stands between their
points is known from where the first ones are.
-/

namespace LayoutCompose

theorem Kotlin.isBlank_of_isNameChar {c : Char} (h : isNameChar c = true) :
    Text.isBlank c = false := by
  have hascii : ∀ n : Fin 128, isNameChar (Char.ofNat n) = true →
      Text.isBlank (Char.ofNat n) = false := by decide
  obtain ⟨n, rfl⟩ := Text.exists_ofNat (toNat_lt_of_isNameChar h)
  exact hascii n h

namespace Reference

variable {r q : Reference}

/-! ### Spellings -/

/-- A kind of small letters, and a name that begins with a letter or an underscore and goes on with
these and digits. -/
structure WellFormed (r : Reference) : Prop where
  kind_ne : r.kind.toList ≠ []
  kind : ∀ c ∈ r.kind.toList, c.isLower = true
  name : ∃ c cs, r.name.toList = c :: cs ∧ (c.isAlpha = true ∨ c = '_') ∧
    ∀ d ∈ cs, d.isAlphanum = true ∨ d = '_'

/-- The reference as it is written in markup. -/
def spelling (r : Reference) : String :=
  "@" ++ (if r.framework then "android:" else "") ++ r.kind ++ "/" ++ r.name

/-- The two texts of a reference, with a plus sign and without. -/
def spelled (plus : Bool) (r : Reference) : String :=
  "@" ++ (if plus then "+" else "") ++ (if r.framework then "android:" else "") ++ r.kind ++ "/" ++
    r.name

@[simp] theorem spelled_false (r : Reference) : r.spelled false = r.spelling := by
  simp [spelled, spelling]

/-- The part of a text that does not depend on the marks. -/
def path (r : Reference) : List Char :=
  r.kind.toList ++ '/' :: r.name.toList

theorem toList_spelled (plus : Bool) (r : Reference) : (r.spelled plus).toList =
    '@' :: ((if plus then ['+'] else []) ++
      ((if r.framework then "android:".toList else []) ++ r.path)) := by
  simp only [spelled, String.toList_append, List.append_assoc, apply_ite String.toList]
  rfl

theorem isName_iff {cs : List Char} : Text.isName cs = true ↔
    ∃ c ds, cs = c :: ds ∧ (c.isAlpha = true ∨ c = '_') ∧
      ∀ d ∈ ds, d.isAlphanum = true ∨ d = '_' := by
  cases cs with
  | nil => simp [Text.isName]
  | cons c cs => simp [Text.isName]

/-! ### Reading -/

theorem slash_not_mem_kind (h : ∀ c ∈ r.kind.toList, c.isLower = true) : '/' ∉ r.kind.toList :=
  fun hmem => absurd (h '/' hmem) (by decide)

@[simp] theorem readPath?_eq_some_iff {framework : Bool} {cs : List Char} :
    readPath? framework cs = some r ↔ r.framework = framework ∧ r.WellFormed ∧ cs = r.path := by
  rw [readPath?, Option.bind_eq_some_iff]
  constructor
  · rintro ⟨⟨kind, name⟩, hcut, h⟩
    dsimp only at h
    split at h
    · rename_i hparts
      obtain rfl := Option.some.inj h
      simp only [Bool.and_eq_true, Bool.not_eq_true', List.isEmpty_eq_false_iff,
        List.all_eq_true] at hparts
      refine ⟨rfl, ⟨?_, ?_, ?_⟩, ?_⟩
      · simpa using hparts.1.1
      · simpa using hparts.1.2
      · simpa using isName_iff.mp hparts.2
      · simpa [path] using Text.eq_append_of_cut? hcut
    · cases h
  · rintro ⟨rfl, hr, rfl⟩
    refine ⟨(r.kind.toList, r.name.toList), ?_, ?_⟩
    · exact Text.cut?_of_not_mem (slash_not_mem_kind hr.kind) _
    · have hempty : r.kind.toList.isEmpty = false := by simpa using hr.kind_ne
      have hkind : r.kind.toList.all Char.isLower = true := List.all_eq_true.mpr hr.kind
      have hname : Text.isName r.name.toList = true := isName_iff.mpr hr.name
      simp [hempty, hkind, hname]

/-- The mark of the framework does not begin a kind with the slash behind it. -/
theorem stripHead?_path (hr : r.WellFormed) : Text.stripHead? "android:".toList r.path = none := by
  by_contra hsome
  obtain ⟨rest, hstrip⟩ := Option.ne_none_iff_exists'.mp hsome
  have hpath : r.path = "android".toList ++ ':' :: rest := by
    rw [Text.eq_append_of_stripHead? hstrip]
    rfl
  have hletters : ∀ c ∈ "android".toList, c.isLower = true := List.all_eq_true.mp rfl
  have hslash : r.path.dropWhile Char.isLower = '/' :: r.name.toList :=
    (Text.span_append hr.kind (by simp)).2
  have hcolon : r.path.dropWhile Char.isLower = ':' :: rest :=
    hpath ▸ (Text.span_append hletters (by simp)).2
  rw [hslash] at hcolon
  cases hcolon

/-- What stands behind the plus sign, if there is one, begins with a small letter. -/
theorem head?_marked_path (hr : r.WellFormed) :
    '+' ∉ ((if r.framework then "android:".toList else []) ++ r.path).head? := by
  intro hplus
  obtain ⟨c, cs, hkind⟩ := List.exists_cons_of_ne_nil hr.kind_ne
  have hc : c.isLower = true := hr.kind c (by simp [hkind])
  split at hplus
  · cases hplus
  · rw [List.nil_append, path, hkind] at hplus
    obtain rfl := Option.some.inj hplus
    exact absurd hc (by decide)

theorem dropHead_plus {plus : Bool} {cs : List Char} (h : '+' ∉ cs.head?) :
    Text.dropHead ['+'] ((if plus then ['+'] else []) ++ cs) = cs := by
  cases plus with
  | true => rfl
  | false =>
      cases cs with
      | nil => rfl
      | cons c cs =>
          have hc : '+' ≠ c := fun heq => h (heq ▸ rfl)
          change Text.dropHead ['+'] (c :: cs) = c :: cs
          rw [Text.dropHead_cons, if_neg hc]

theorem exists_plus (cs : List Char) :
    ∃ plus : Bool, cs = (if plus then ['+'] else []) ++ Text.dropHead ['+'] cs := by
  cases cs with
  | nil => exact ⟨false, rfl⟩
  | cons c cs =>
      rw [Text.dropHead_cons]
      split
      · rename_i hc
        exact ⟨true, hc ▸ rfl⟩
      · exact ⟨false, rfl⟩

theorem isSolid_spelled (hr : r.WellFormed) (plus : Bool) :
    Text.IsSolid (r.spelled plus).toList := by
  have hname : Text.isName r.name.toList = true := isName_iff.mpr hr.name
  have hname_ne : r.name.toList ≠ [] := by
    obtain ⟨c, cs, hcs, -⟩ := hr.name
    simp [hcs]
  have hsolid : Text.IsSolid r.name.toList := Text.isSolid_of_not_blank fun c hc =>
    Kotlin.isBlank_of_isNameChar (Kotlin.isNameChar_of_isName hname c hc)
  have htext : (r.spelled plus).toList = ['@'] ++ (((if plus then ['+'] else []) ++
      ((if r.framework then "android:".toList else []) ++ (r.kind.toList ++ ['/']))) ++
        r.name.toList) := by
    simp only [toList_spelled, path, List.append_assoc, List.cons_append, List.nil_append]
  rw [htext]
  exact (Text.isSolid_singleton rfl).between hsolid (List.cons_ne_nil _ _) hname_ne _

/-- A text is read as a reference exactly if it is a spelling of it, white space around it aside. -/
theorem read?_eq_some_iff {s : String} :
    read? s = some r ↔ r.WellFormed ∧ ∃ plus, Text.trim s.toList = (r.spelled plus).toList := by
  constructor
  · intro h
    unfold read? at h
    split at h
    · rename_i cs htrim
      obtain ⟨plus, hplus⟩ := exists_plus cs
      dsimp only at h
      split at h
      · rename_i rest hstrip
        obtain ⟨hframework, hr, rfl⟩ := readPath?_eq_some_iff.mp h
        refine ⟨hr, plus, ?_⟩
        rw [htrim, toList_spelled, if_pos hframework, ← Text.eq_append_of_stripHead? hstrip,
          ← hplus]
      · obtain ⟨hframework, hr, hpath⟩ := readPath?_eq_some_iff.mp h
        refine ⟨hr, plus, ?_⟩
        rw [htrim, toList_spelled, hframework, if_neg Bool.false_ne_true, List.nil_append, ← hpath,
          ← hplus]
    · cases h
  · rintro ⟨hr, plus, htrim⟩
    rw [toList_spelled] at htrim
    unfold read?
    split
    · rename_i cs hcs
      rw [htrim, List.cons.injEq] at hcs
      rw [← hcs.2, dropHead_plus (head?_marked_path hr)]
      dsimp only
      cases hframework : r.framework with
      | true =>
          rw [if_pos rfl, Text.stripHead?_append]
          exact readPath?_eq_some_iff.mpr ⟨hframework, hr, rfl⟩
      | false =>
          rw [if_neg Bool.false_ne_true, List.nil_append, stripHead?_path hr]
          exact readPath?_eq_some_iff.mpr ⟨hframework, hr, rfl⟩
    · rename_i hother
      exact absurd htrim (hother _)

theorem read?_spelled (hr : r.WellFormed) (plus : Bool) : read? (r.spelled plus) = some r :=
  read?_eq_some_iff.mpr ⟨hr, plus, Text.trim_of_isSolid (isSolid_spelled hr plus)⟩

/-! ### Constants -/

theorem toList_constant (r : Reference) : r.constant.toList =
    (if r.framework then "android.R".toList else "R".toList) ++
      '.' :: (r.kind.toList ++ '.' :: r.name.toList) := by
  simp only [constant, String.toList_append, List.append_assoc, apply_ite String.toList]
  rfl

/-- Two parts of a text with a point in between are known from the text, if there is no point in
the first of them. -/
theorem parts_eq_of_point {kind name kind' name' : List Char} (hkind : '.' ∉ kind)
    (hkind' : '.' ∉ kind') (h : kind ++ '.' :: name = kind' ++ '.' :: name') :
    kind = kind' ∧ name = name' := by
  have hcut := Text.cut?_of_not_mem hkind name
  rw [h, Text.cut?_of_not_mem hkind', Option.some.injEq, Prod.mk.injEq] at hcut
  exact ⟨hcut.1.symm, hcut.2.symm⟩

theorem constant_injective (hr : r.WellFormed) (hq : q.WellFormed)
    (h : r.constant = q.constant) : r = q := by
  have hpoint {r : Reference} (hr : r.WellFormed) : '.' ∉ r.kind.toList :=
    fun hmem => absurd (hr.kind '.' hmem) (by decide)
  have htext := congrArg String.toList h
  rw [toList_constant, toList_constant] at htext
  have hframework : r.framework = q.framework := by
    cases hr : r.framework with
    | true =>
        cases hq : q.framework with
        | true => rfl
        | false =>
            rw [hr, hq] at htext
            cases htext
    | false =>
        cases hq : q.framework with
        | true =>
            rw [hr, hq] at htext
            cases htext
        | false => rfl
  rw [hframework, List.append_cancel_left_eq, List.cons.injEq] at htext
  obtain ⟨hkind, hname⟩ := parts_eq_of_point (hpoint hr) (hpoint hq) htext.2
  obtain ⟨framework, kind, name⟩ := r
  obtain ⟨framework', kind', name'⟩ := q
  rw [String.toList_inj] at hkind hname
  simp only [Reference.mk.injEq]
  exact ⟨hframework, hkind, hname⟩

/-- References are read from their spellings and from nothing else, a reference that has been read
is read again from its spelling, and no two of them become the same constant. -/
theorem read?_exact :
    (∀ (s : String) (r : Reference),
      read? s = some r ↔ r.WellFormed ∧ ∃ plus, trimmed s = r.spelled plus) ∧
    (∀ (s : String) (r : Reference), read? s = some r →
      read? r.spelling = some r ∧ ∀ plus, read? (r.spelled plus) = some r) ∧
    ∀ (s t : String) (r q : Reference), read? s = some r → read? t = some q →
      r.constant = q.constant → r = q := by
  refine ⟨fun s r => ?_, fun s r h => ?_, fun s t r q hs ht => ?_⟩
  · rw [read?_eq_some_iff]
    simp only [trimmed, ← String.toList_inj, String.toList_ofList]
  · have hr := (read?_eq_some_iff.mp h).1
    exact ⟨spelled_false r ▸ read?_spelled hr false, read?_spelled hr⟩
  · exact constant_injective (read?_eq_some_iff.mp hs).1 (read?_eq_some_iff.mp ht).1

/-- Two spellings of one reference, with a plus sign and white space and without. -/
theorem read?_exact_marked :
    (WellFormed ⟨true, "id", "_a1"⟩ ∧
      ∃ plus, trimmed "\n@+android:id/_a1 " = spelled plus ⟨true, "id", "_a1"⟩) ∧
    read? (spelling ⟨true, "id", "_a1"⟩) = some ⟨true, "id", "_a1"⟩ ∧
    ∃ r q, read? "\n@+android:id/_a1 " = some r ∧ read? "@android:id/_a1" = some q ∧
      r.constant = q.constant ∧ r = q := by
  have hs : read? "\n@+android:id/_a1 " = some ⟨true, "id", "_a1"⟩ := by decide +kernel
  have ht : read? "@android:id/_a1" = some ⟨true, "id", "_a1"⟩ := by decide +kernel
  exact ⟨(read?_exact.1 _ _).mp hs, (read?_exact.2.1 _ _ hs).1, _, _, hs, ht, rfl,
    read?_exact.2.2 _ _ _ _ hs ht rfl⟩

end Reference

end LayoutCompose
