import LayoutCompose.Compose.Chain
import LayoutCompose.Proofs.Names
import LayoutCompose.Proofs.ReadValues
import LayoutCompose.Proofs.ReferenceNames
import Mathlib.Data.List.Perm.Subperm

/-!
The names that references get.

A name made from an identifier is a plain name, or a keyword in backticks. For the other children
numbers are counted up until one is found whose name is free. Each name that is given out is kept
from then on, so no two children have one name, and an identifier leads to the child that has it.
-/

namespace LayoutCompose

namespace Kotlin

structure IsPlainName (name : String) : Prop where
  isName : Text.isName name.toList = true
  ne_underscore : name ≠ "_"
  not_keyword : name ∉ keywords

/-- How a variable may be spelled: by a plain name, or by a keyword in backticks. -/
def IsSpelling (name : String) : Prop :=
  IsPlainName name ∨ ∃ keyword ∈ keywords, name = "`" ++ keyword ++ "`"

theorem isBackticked_eq_false {name : String} (h : ∀ c ∈ name.toList, isNameChar c = true) :
    isBackticked name = false := by
  have hhead : (name.toList.head? == some '`') = false := by
    cases hname : name.toList with
    | nil => rfl
    | cons c cs =>
        have hc : isNameChar c = true := h c (hname ▸ List.mem_cons_self)
        have hne : c ≠ '`' := by
          rintro rfl
          exact absurd hc (by decide)
        simpa using hne
  rw [isBackticked, hhead, Bool.and_false, Bool.false_and]

/-- A name made from an identifier is spelled properly, unless there is nothing to spell. -/
theorem isSpelling_variableName {id : String} (hid : Text.isName id.toList = true)
    (h : isVariableName (variableName id) = true) : IsSpelling (variableName id) := by
  have hchars : ∀ c ∈ (String.ofList (Text.camelCase id.toList)).toList, isNameChar c = true := by
    rw [String.toList_ofList]
    exact isNameChar_camelCase (isNameChar_of_isName hid)
  unfold variableName at h ⊢
  dsimp only at h ⊢
  split
  · rename_i hkeyword
    exact .inr ⟨_, List.contains_iff_mem.mp hkeyword, rfl⟩
  · rename_i hkeyword
    rw [if_neg hkeyword, isVariableName, isBackticked_eq_false hchars, Bool.false_or] at h
    rw [List.contains_iff_mem] at hkeyword
    left
    split at h
    · cases h
    · rename_i c cs hname
      simp only [Bool.and_eq_true, bne_iff_ne] at h
      refine ⟨?_, h.1.2, hkeyword⟩
      rw [hname, Text.isName, Bool.and_eq_true]
      exact ⟨h.1.1, h.2⟩

end Kotlin

namespace Compose.References

/-! ### Numbers -/

@[simp] theorem toList_numbered (n : Nat) :
    (numbered n).toList = 'r' :: 'e' :: 'f' :: Nat.toDigits 10 n := by
  rw [numbered, String.toList_append, ← Nat.toList_repr]
  rfl

theorem numbered_injective {m n : Nat} (h : numbered m = numbered n) : m = n := by
  have hdigits := congrArg String.toList h
  rw [toList_numbered, toList_numbered] at hdigits
  simp only [List.cons.injEq, true_and] at hdigits
  have hten : 1 < 10 ∧ 10 ≤ 10 := by decide
  calc m
    _ = Nat.ofDigitChars 10 (Nat.toDigits 10 m) 0 :=
        (Nat.ofDigitChars_toDigits hten.1 hten.2).symm
    _ = Nat.ofDigitChars 10 (Nat.toDigits 10 n) 0 := by rw [hdigits]
    _ = n := Nat.ofDigitChars_toDigits hten.1 hten.2

/-- A numbered name is none of the words that begin otherwise. -/
theorem numbered_not_mem_of_all {words : List String}
    (h : words.all (fun word => word.toList.take 3 != ['r', 'e', 'f']) = true) (n : Nat) :
    numbered n ∉ words := by
  intro hmem
  have hnumbered := List.all_eq_true.mp h _ hmem
  rw [toList_numbered] at hnumbered
  exact absurd hnumbered (by simp)

/-- A numbered name is neither a keyword nor the name of the parent. -/
theorem numbered_not_mem (n : Nat) : numbered n ∉ "parent" :: "_" :: Kotlin.keywords :=
  numbered_not_mem_of_all (by decide) n

theorem isPlainName_numbered (n : Nat) : Kotlin.IsPlainName (numbered n) := by
  have hword := numbered_not_mem n
  simp only [List.mem_cons, not_or] at hword
  refine ⟨?_, hword.2.1, hword.2.2⟩
  have hdigits : ∀ c ∈ Nat.toDigits 10 n, (c.isAlphanum || c == '_') = true := by
    intro c hc
    have hdigit : c.isDigit = true := Nat.isDigit_of_mem_toDigits (by decide) (by decide) hc
    rw [Char.isAlphanum, hdigit, Bool.or_true, Bool.true_or]
  rw [toList_numbered, Text.isName, Bool.and_eq_true]
  refine ⟨by decide, ?_⟩
  rw [List.all_eq_true, List.forall_mem_cons, List.forall_mem_cons]
  exact ⟨by decide, by decide, hdigits⟩

/-- Counting up from `n` past the names that are taken ends at `k`. -/
inductive CountsTo (taken : List String) : (n k : Nat) → Prop
  | free {n : Nat} : numbered n ∉ taken → CountsTo taken n n
  | next {n k : Nat} : numbered n ∈ taken → CountsTo taken (n + 1) k → CountsTo taken n k

/-- Of more numbers than there are names, one has a name that is not among them. -/
theorem exists_free (taken : List String) (n : Nat) :
    ∃ k ∈ List.range (taken.length + 1), numbered (n + k) ∉ taken := by
  by_contra hall
  have htaken : ∀ k ∈ List.range (taken.length + 1), numbered (n + k) ∈ taken := by
    intro k hk
    by_contra hfree
    exact hall ⟨k, hk, hfree⟩
  have hnodup : ((List.range (taken.length + 1)).map fun k => numbered (n + k)).Nodup := by
    refine List.Nodup.map ?_ List.nodup_range
    intro i j hij
    exact Nat.add_left_cancel (numbered_injective hij)
  have hsubset : ((List.range (taken.length + 1)).map fun k => numbered (n + k)) ⊆ taken := by
    intro name hname
    obtain ⟨k, hk, rfl⟩ := List.mem_map.mp hname
    exact htaken k hk
  have hlength := (List.subperm_of_subset hnodup hsubset).length_le
  rw [List.length_map, List.length_range] at hlength
  omega

theorem countsTo_add {taken : List String} {n k : Nat} (hfree : numbered (n + k) ∉ taken)
    (htaken : ∀ j < k, numbered (n + j) ∈ taken) : CountsTo taken n (n + k) := by
  induction k generalizing n with
  | zero => exact .free hfree
  | succ k ih =>
      have hindex (j : Nat) : n + (j + 1) = n + 1 + j := by omega
      refine .next (htaken 0 (Nat.succ_pos k)) ?_
      rw [hindex k] at hfree ⊢
      refine ih hfree fun j hj => ?_
      rw [← hindex]
      exact htaken (j + 1) (Nat.succ_lt_succ hj)

/-- Counting up comes to an end, at the number that the bounded search finds. -/
theorem countsTo_freeNumber (taken : List String) (n : Nat) :
    CountsTo taken n (freeNumber taken n) := by
  obtain ⟨free, hmem, hfree⟩ := exists_free taken n
  unfold freeNumber
  cases hfind : (List.range (taken.length + 1)).find? fun k =>
      !taken.contains (numbered (n + k)) with
  | none => exact absurd (by simpa using hfree) (List.find?_eq_none.mp hfind free hmem)
  | some k =>
      obtain ⟨hk, -, hless⟩ := List.find?_range_eq_some.mp hfind
      rw [Option.getD_some]
      refine countsTo_add (by simpa using hk) fun j hj => ?_
      simpa using hless j hj

theorem CountsTo.not_mem {taken : List String} {n k : Nat} (h : CountsTo taken n k) :
    numbered k ∉ taken := by
  induction h with
  | free hfree => exact hfree
  | next _ _ ih => exact ih

theorem numbered_freeNumber_not_mem (taken : List String) (n : Nat) :
    numbered (freeNumber taken n) ∉ taken :=
  (countsTo_freeNumber taken n).not_mem

/-! ### Names -/

/-- A name is one of those made from identifiers, or it is numbered and was not taken. -/
theorem mem_complete {n : Nat} {taken : List String} {pairs : List (View × Option String)}
    {name : String} (h : some name ∈ complete n taken pairs) :
    some name ∈ pairs.map Prod.snd ∨ (∃ k, name = numbered k) ∧ name ∉ taken := by
  induction pairs generalizing n taken with
  | nil => cases h
  | cons pair pairs ih =>
      obtain ⟨v, own⟩ := pair
      rw [List.map_cons, List.mem_cons]
      cases own with
      | some spelled =>
          rw [complete, List.mem_cons] at h
          rcases h with heq | h
          · exact .inl (.inl heq)
          · exact (ih h).imp_left .inr
      | none =>
          rw [complete] at h
          split at h
          · rw [List.mem_cons] at h
            rcases h with heq | h
            · obtain rfl := Option.some.inj heq
              exact .inr ⟨⟨_, rfl⟩, numbered_freeNumber_not_mem taken n⟩
            · refine (ih h).imp .inr fun hnew => ⟨hnew.1, fun htaken => hnew.2 ?_⟩
              exact List.mem_cons_of_mem _ htaken
          · rw [List.mem_cons] at h
            rcases h with heq | h
            · cases heq
            · exact (ih h).imp_left .inr

/-- No name is given twice: those made from identifiers differ and are taken, and a numbered one
is taken as soon as it is given. -/
theorem nodup_complete {n : Nat} {taken : List String} {pairs : List (View × Option String)}
    (hnames : ((pairs.map Prod.snd).filterMap fun name => name).Nodup)
    (htaken : ∀ name, some name ∈ pairs.map Prod.snd → name ∈ taken) :
    ((complete n taken pairs).filterMap fun name => name).Nodup := by
  induction pairs generalizing n taken with
  | nil => exact List.nodup_nil
  | cons pair pairs ih =>
      obtain ⟨v, own⟩ := pair
      have hlater : ∀ name, some name ∈ pairs.map Prod.snd → name ∈ taken := fun name hname =>
        htaken name (List.mem_cons_of_mem _ hname)
      cases own with
      | some spelled =>
          simp only [List.map_cons, List.filterMap_cons, List.nodup_cons] at hnames
          simp only [complete, List.filterMap_cons, List.nodup_cons]
          refine ⟨fun hmem => ?_, ih hnames.2 hlater⟩
          obtain ⟨name, hname, rfl⟩ := List.mem_filterMap.mp hmem
          rcases mem_complete hname with hsecond | hnew
          · exact hnames.1 (List.mem_filterMap.mpr ⟨_, hsecond, rfl⟩)
          · exact hnew.2 (htaken spelled List.mem_cons_self)
      | none =>
          simp only [List.map_cons, List.filterMap_cons] at hnames
          rw [complete]
          split
          · simp only [List.filterMap_cons, List.nodup_cons]
            refine ⟨fun hmem => ?_, ih hnames fun name hname =>
              List.mem_cons_of_mem _ (hlater name hname)⟩
            obtain ⟨name, hname, rfl⟩ := List.mem_filterMap.mp hmem
            rcases mem_complete hname with hspelled | hnew
            · exact numbered_freeNumber_not_mem taken n (hlater _ hspelled)
            · exact hnew.2 List.mem_cons_self
          · exact ih hnames hlater

@[simp] theorem mem_declared {refs : References} {name : String} :
    name ∈ refs.declared ↔ some name ∈ refs.names := by
  rw [declared, List.mem_filterMap]
  constructor
  · rintro ⟨_, hname, rfl⟩
    exact hname
  · intro hname
    exact ⟨_, hname, rfl⟩

theorem nodup_declared_given {children : List View} (h : Distinct children) :
    (given children).declared.Nodup := by
  have hspelled : (children.map fun v => (v, spelledName v)).map Prod.snd =
      children.map spelledName := by
    rw [List.map_map]
    rfl
  refine nodup_complete ?_ ?_
  · rw [hspelled, List.filterMap_map]
    exact h.names
  · intro name hname
    rw [hspelled] at hname
    obtain ⟨v, hv, hname⟩ := List.mem_map.mp hname
    exact List.mem_filterMap.mpr ⟨v, hv, hname⟩

theorem mem_declared_given {children : List View} {name : String}
    (h : name ∈ (given children).declared) :
    name ∈ children.filterMap spelledName ∨ ∃ k, name = numbered k := by
  rcases mem_complete (mem_declared.mp h) with hspelled | hnew
  · obtain ⟨pair, hpair, hname⟩ := List.mem_map.mp hspelled
    obtain ⟨v, hv, rfl⟩ := List.mem_map.mp hpair
    exact .inl (List.mem_filterMap.mpr ⟨v, hv, hname⟩)
  · exact .inr hnew.1

theorem parent_not_mem_declared_given {children : List View} (h : Distinct children) :
    "parent" ∉ (given children).declared := by
  intro hparent
  rcases mem_declared_given hparent with hspelled | ⟨k, hk⟩
  · exact h.parent hspelled
  · exact numbered_not_mem k (hk ▸ List.mem_cons_self)

theorem isSpelling_of_mem_declared_given {children : List View}
    (hids : ∀ v ∈ children, ∀ id ∈ v.id, Text.isName id.toList = true) {name : String}
    (h : name ∈ (given children).declared) : Kotlin.IsSpelling name := by
  rcases mem_declared_given h with hspelled | ⟨k, rfl⟩
  · obtain ⟨v, hv, hname⟩ := List.mem_filterMap.mp hspelled
    unfold spelledName at hname
    split at hname
    · exact nomatch hname
    · obtain ⟨hmap, hvariable⟩ := Option.filter_eq_some_iff.mp hname
      obtain ⟨id, hid, rfl⟩ := Option.map_eq_some_iff.mp hmap
      exact Kotlin.isSpelling_variableName (hids v hv id hid) hvariable
  · exact .inl (isPlainName_numbered k)

/-! ### Identifiers -/

theorem ids_zip_names_given {children : List View} (h : Distinct children) :
    (((children.zip (given children).names).map Prod.fst).filterMap View.id).Nodup := by
  rw [List.map_fst_zip (Nat.le_of_eq (length_names_given children).symm)]
  exact h.ids

/-- An identifier leads to the name of the child that has it. -/
theorem lookup_given {children : List View} {i : Nat} {v : View} {id : String}
    (h : Distinct children) (hv : children[i]? = some v) (hid : v.id = some id) :
    (given children).ids.lookup id = (given children).names[i]? := by
  have hi : i < (given children).names.length := by
    rw [length_names_given]
    exact (List.getElem?_eq_some_iff.mp hv).1
  have hname := List.getElem?_eq_getElem hi
  rw [hname]
  refine (lookup_namedIds (ids_zip_names_given h)).mpr ⟨v, ?_, hid⟩
  exact List.mem_iff_getElem?.mpr ⟨i, List.getElem?_zip_eq_some.mpr ⟨hv, hname⟩⟩

/-- A tie to a sibling names the reference of another child, the one that has the identifier. -/
theorem eq_name_of_tieTarget {children : List View} {i : Nat} {v : View} {tie : Constraint}
    {target : String} (h : Distinct children) (hv : children[i]? = some v)
    (htarget : tieTarget (given children).ids v.id tie = .ok target) :
    (tie.target = .parent ∧ target = "parent") ∨
      ∃ (id : String) (j : Nat) (w : View), tie.target = .sibling id ∧ j ≠ i ∧
        children[j]? = some w ∧ w.id = some id ∧
          (given children).names[j]? = some (some target) := by
  unfold tieTarget at htarget
  split at htarget
  · rename_i hparent
    exact .inl ⟨hparent, (Except.ok.inj htarget).symm⟩
  · rename_i id hsibling
    split at htarget
    · exact nomatch htarget
    · rename_i hown
      split at htarget
      · rename_i name hlookup
        obtain rfl := Except.ok.inj htarget
        obtain ⟨w, hmem, hid⟩ := (lookup_namedIds (ids_zip_names_given h)).mp hlookup
        obtain ⟨j, hj⟩ := List.mem_iff_getElem?.mp hmem
        rw [List.getElem?_zip_eq_some] at hj
        refine .inr ⟨id, j, w, hsibling, ?_, hj.1, hid, hj.2⟩
        rintro rfl
        rw [Option.some.inj (hv.symm.trans hj.1)] at hown
        exact hown hid
      · exact nomatch htarget
      · exact nomatch htarget

/-- References by which the children of a group can be told apart and tied to each other. -/
structure Resolve (children : List View) (refs : References) : Prop where
  /-- There is an entry for each child. -/
  length : refs.names.length = children.length
  /-- A child has a name exactly if it is shown and has an identifier or ties of its own. -/
  named : ∀ (i : Nat) v, children[i]? = some v → ((∃ name, refs.names[i]? = some (some name)) ↔
    v.isGone = false ∧ (v.id ≠ none ∨ v.frame.constraints ≠ []))
  /-- The names differ from each other and from that of the parent. -/
  distinct : refs.declared.Nodup ∧ "parent" ∉ refs.declared
  spelled : ∀ name ∈ refs.declared, Kotlin.IsSpelling name
  /-- An identifier leads to the name of the child that has it. -/
  lookup : ∀ (i : Nat) v id, children[i]? = some v → v.id = some id →
    refs.ids.lookup id = refs.names[i]?
  /-- What is written for a tie names the parent or the reference of the sibling that has the
  identifier. -/
  ties : ∀ (i : Nat) v tie text, children[i]? = some v → tie ∈ v.frame.constraints →
    tieText refs.ids v.id tie = .ok text → ∃ target,
      text = anchorName tie.anchor ++ ".linkTo(" ++ target ++ "." ++
        anchorName tie.targetAnchor ++ ")" ∧
      ((tie.target = .parent ∧ target = "parent") ∨
        ∃ (id : String) (j : Nat) (w : View), tie.target = .sibling id ∧ j ≠ i ∧
          children[j]? = some w ∧ w.id = some id ∧ refs.names[j]? = some (some target) ∧
            target ∈ refs.declared)

/-- The references of children whose identifiers have been read: the search for a free number
always comes to an end, and if references are given, they tell the children apart. -/
theorem ofChildren_resolve {children : List View}
    (hids : ∀ v ∈ children, ∀ id ∈ v.id, ∃ s, readId s = .ok id) :
    (∀ taken n, CountsTo taken n (freeNumber taken n)) ∧
      ∀ refs, (ofChildren children).result = .ok refs → Resolve children refs := by
  refine ⟨countsTo_freeNumber, fun refs hrefs => ?_⟩
  obtain ⟨hdistinct, rfl⟩ := ofChildren_eq_ok_iff.mp hrefs
  have hnames : ∀ v ∈ children, ∀ id ∈ v.id, Text.isName id.toList = true := by
    intro v hv id hid
    obtain ⟨s, hs⟩ := hids v hv id hid
    exact isName_of_readId hs
  refine {
    length := length_names_given children
    named := ?_
    distinct := ⟨nodup_declared_given hdistinct, parent_not_mem_declared_given hdistinct⟩
    spelled := fun name => isSpelling_of_mem_declared_given hnames
    lookup := fun i v id => lookup_given hdistinct
    ties := ?_ }
  · intro i v hv
    have hneeded := exists_nameAt_iff hv
    simp only [nameAt, Option.join_eq_some_iff] at hneeded
    rw [hneeded, isNeeded, Bool.and_eq_true, Bool.or_eq_true, Bool.not_eq_true',
      Bool.not_eq_true', Option.isSome_iff_ne_none, List.isEmpty_eq_false_iff]
  · intro i v tie text hv _ htext
    rw [tieText, Outcome.bind_eq_ok] at htext
    obtain ⟨target, htarget, htext⟩ := htext
    refine ⟨target, (Outcome.pure_eq_ok.mp htext).symm, ?_⟩
    refine (eq_name_of_tieTarget hdistinct hv htarget).imp_right ?_
    rintro ⟨id, j, w, hsibling, hne, hw, hid, hname⟩
    exact ⟨id, j, w, hsibling, hne, hw, hid, hname,
      mem_declared.mpr (List.mem_of_getElem? hname)⟩

theorem ofChildren_resolve_clashing : ∃ refs,
    (ofChildren (["ref0", "_", "when"].map fun id => .control { id := some id } .plain)).result =
      .ok refs ∧
      Resolve (["ref0", "_", "when"].map fun id => .control { id := some id } .plain) refs ∧
        refs.declared = ["ref0", "ref1", "`when`"] := by
  have hread : ["ref0", "_", "when"].all (fun id => readId ("@id/" ++ id) = .ok id) = true := by
    decide +kernel
  obtain ⟨refs, hrefs, hdeclared⟩ : ∃ refs,
      (ofChildren (["ref0", "_", "when"].map fun id => .control { id := some id } .plain)).result =
        .ok refs ∧ refs.declared = ["ref0", "ref1", "`when`"] := by
    decide +kernel
  refine ⟨refs, hrefs, (ofChildren_resolve ?_).2 refs hrefs, hdeclared⟩
  intro v hv id hid
  obtain ⟨name, hname, rfl⟩ := List.mem_map.mp hv
  obtain rfl := Option.some.inj hid
  exact ⟨_, of_decide_eq_true (List.all_eq_true.mp hread _ hname)⟩

end Compose.References

end LayoutCompose
