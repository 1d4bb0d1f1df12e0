import LayoutCompose.Compose.References
import LayoutCompose.Proofs.Outcome
import Mathlib.Data.List.Nodup
import Mathlib.Tactic.MkIffOfInductiveProp
import Mathlib.Tactic.Tauto

/-!
The references of a constraint group.

The names that identifiers spell can be given out exactly if no two children share an
identifier and no two of them spell one name. A child then has a reference exactly if it needs
one, and an identifier is looked up to the reference of the child that has it.
-/

namespace LayoutCompose.Compose.References

/-- The name that the identifier of a view spells, if the view is shown and the spelling can
stand as a name. -/
def spelledName (v : View) : Option String :=
  if v.isGone then none else (v.id.map Kotlin.variableName).filter Kotlin.isVariableName

/-- Identifiers are unique among all children, and their spellings among those that are shown;
the name of the parent is kept free. -/
@[mk_iff] structure Distinct (children : List View) : Prop where
  ids : (children.filterMap View.id).Nodup
  names : (children.filterMap spelledName).Nodup
  parent : "parent" ∉ children.filterMap spelledName

theorem spelledName_of_id_none {v : View} (hid : v.id = none) : spelledName v = none := by
  simp [spelledName, hid]

theorem nameOfId_eq_ok_iff {taken : List String} {v : View} {id : String}
    {name : Option String} (hid : v.id = some id) :
    (nameOfId taken v id).result = .ok name ↔
      name = spelledName v ∧ ∀ n ∈ spelledName v, n ≠ "parent" ∧ n ∉ taken := by
  unfold nameOfId spelledName
  rw [hid, Option.map_some, Option.filter_some]
  by_cases hgone : v.isGone = true
  · simp [hgone, eq_comm]
  by_cases hname : Kotlin.isVariableName (Kotlin.variableName id) = true
  · by_cases hparent : Kotlin.variableName id = "parent"
    · rw [hparent] at hname
      simp [hgone, hname, hparent]
    · by_cases htaken : Kotlin.variableName id ∈ taken
      · simp [hgone, hname, hparent, htaken]
      · simp [hgone, hname, hparent, htaken, eq_comm]
  · simp [hgone, hname, Except.bind, eq_comm]

theorem distinct_cons_of_id_none {v : View} {vs : List View} (hid : v.id = none) :
    Distinct (v :: vs) ↔ Distinct vs := by
  simp [distinct_iff, hid, spelledName_of_id_none hid]

theorem distinct_cons {v : View} {vs : List View} {id : String} (hid : v.id = some id) :
    Distinct (v :: vs) ↔ id ∉ vs.filterMap View.id ∧
      (∀ n ∈ spelledName v, n ≠ "parent" ∧ n ∉ vs.filterMap spelledName) ∧ Distinct vs := by
  cases hname : spelledName v with
  | none => simp [distinct_iff, hid, hname]; tauto
  | some n => simp [distinct_iff, hid, hname]; tauto

theorem namesOfIds_eq_ok_iff {seen taken : List String} {vs : List View}
    {names : List (Option String)} :
    (namesOfIds seen taken vs).result = .ok names ↔
      names = vs.map spelledName ∧ Distinct vs ∧ (∀ id ∈ vs.filterMap View.id, id ∉ seen) ∧
        ∀ name ∈ vs.filterMap spelledName, name ∉ taken := by
  induction vs generalizing seen taken names with
  | nil =>
      have hnil : Distinct [] := ⟨by simp, by simp, by simp⟩
      simp [namesOfIds, hnil, eq_comm]
  | cons v vs ih =>
      cases hid : v.id with
      | none =>
          simp only [namesOfIds, hid, Noted.result_bind, Noted.result_pure,
            Outcome.Except_bind_eq_ok, ih, List.mem_filterMap, forall_exists_index, and_imp,
            Except.ok.injEq, ↓existsAndEq, true_and, List.map_cons, spelledName_of_id_none hid,
            distinct_cons_of_id_none hid, List.filterMap_cons_none]
          constructor
          · rintro ⟨h, rfl⟩
            exact ⟨rfl, h⟩
          · rintro ⟨rfl, h⟩
            exact ⟨h, rfl⟩
      | some id =>
          by_cases hseen : id ∈ seen
          · simp [namesOfIds, hid, hseen]
          · simp only [namesOfIds, hid, List.contains_eq_mem, hseen, decide_false,
              Bool.false_eq_true, ↓reduceIte, Noted.result_bind, Noted.result_pure,
              Outcome.Except_bind_eq_ok, nameOfId_eq_ok_iff hid, Option.mem_def, ne_eq, ih,
              List.mem_filterMap, List.mem_cons, not_or, forall_exists_index, and_imp,
              List.mem_append, Option.mem_toList, Except.ok.injEq, ↓existsAndEq, true_and,
              List.map_cons, distinct_cons hid, not_exists, not_and, Option.some.injEq,
              List.filterMap_cons_some, forall_eq_or_imp, not_false_eq_true, exists_eq_or_imp]
            constructor
            · rintro ⟨hname, ⟨hdistinct, hids, hnames⟩, rfl⟩
              refine ⟨rfl, ⟨fun x hx hx' => (hids id x hx hx').1 rfl, fun n hn =>
                ⟨(hname n hn).1, fun x hx hx' => (hnames n x hx hx').1 hn⟩, hdistinct⟩,
                fun a x hx ha => (hids a x hx ha).2, ?_⟩
              rintro n (hn | ⟨x, hx, hn⟩)
              · exact (hname n hn).2
              · exact (hnames n x hx hn).2
            · rintro ⟨rfl, ⟨hnew, hname, hdistinct⟩, hids, hnames⟩
              refine ⟨fun n hn => ⟨(hname n hn).1, hnames n (.inl hn)⟩, ⟨hdistinct,
                fun a x hx ha => ⟨?_, hids a x hx ha⟩, fun n x hx hn =>
                  ⟨fun hv => (hname n hv).2 x hx hn, hnames n (.inr ⟨x, hx, hn⟩)⟩⟩, rfl⟩
              rintro rfl
              exact hnew x hx ha

/-- The references of children whose names are distinct. -/
def given (children : List View) : References :=
  let names := complete 0 (children.filterMap spelledName)
    (children.map fun v => (v, spelledName v))
  ⟨names, namedIds (children.zip names)⟩

theorem ofChildren_eq_ok_iff {children : List View} {refs : References} :
    (ofChildren children).result = .ok refs ↔ Distinct children ∧ given children = refs := by
  have hzip : children.zip (children.map spelledName) = children.map fun v => (v, spelledName v) :=
    List.map_prod_left_eq_zip.symm
  have hnames : (children.map spelledName).filterMap (fun name => name) =
      children.filterMap spelledName := List.filterMap_map ..
  simp only [ofChildren, Noted.result_bind, Outcome.Except_bind_eq_ok, namesOfIds_eq_ok_iff,
    Noted.result_pure, Except.ok.injEq]
  constructor
  · rintro ⟨names, ⟨rfl, hdistinct, -⟩, rfl⟩
    refine ⟨hdistinct, ?_⟩
    rw [hzip, hnames, given]
  · rintro ⟨hdistinct, rfl⟩
    refine ⟨children.map spelledName, ⟨rfl, hdistinct, by simp, by simp⟩, ?_⟩
    rw [hzip, hnames, given]

theorem isNeeded_of_spelledName {v : View} {name : String} (h : spelledName v = some name) :
    isNeeded v = true := by
  unfold spelledName at h
  split at h
  · exact nomatch h
  · rename_i hgone
    cases hid : v.id with
    | none => simp [hid] at h
    | some id => simp [isNeeded, hgone, hid]

@[simp] theorem complete_isSome (n : Nat) (taken : List String) (vs : List View) :
    (complete n taken (vs.map fun v => (v, spelledName v))).map Option.isSome =
      vs.map isNeeded := by
  induction vs generalizing n taken with
  | nil => rfl
  | cons v vs ih =>
      rw [List.map_cons, List.map_cons]
      cases hname : spelledName v with
      | some name => simp [complete, ih, isNeeded_of_spelledName hname]
      | none =>
          by_cases hneeded : isNeeded v = true
          · simp [complete, ih, hneeded]
          · simp [complete, ih, hneeded]

@[simp] theorem names_given_isSome (children : List View) :
    (given children).names.map Option.isSome = children.map isNeeded :=
  complete_isSome ..

/-- A child has a reference exactly if it needs one. -/
theorem exists_nameAt_iff {children : List View} {i : Nat} {v : View}
    (hv : children[i]? = some v) :
    (∃ name, (given children).nameAt i = some name) ↔ isNeeded v = true := by
  have hsome := congrArg (fun flags : List Bool => flags[i]?) (names_given_isSome children)
  simp only [List.getElem?_map, hv, Option.map_some, Option.map_eq_some_iff] at hsome
  obtain ⟨name, hname, hneeded⟩ := hsome
  rw [nameAt, hname, ← hneeded]
  cases name <;> simp

@[simp] theorem length_names_given (children : List View) :
    (given children).names.length = children.length := by
  have hlength := congrArg List.length (names_given_isSome children)
  rwa [List.length_map, List.length_map] at hlength

theorem exists_named_cons {pairs : List (View × Option String)} {v : View}
    {own name : Option String} {id : String} (hv : v.id ≠ some id) :
    (∃ w, (w, name) ∈ (v, own) :: pairs ∧ w.id = some id) ↔
      ∃ w, (w, name) ∈ pairs ∧ w.id = some id := by
  refine exists_congr fun w => and_congr_left fun hwid => ?_
  rw [List.mem_cons, or_iff_right]
  intro heq
  obtain rfl := congrArg Prod.fst heq
  exact hv hwid

/-- Where identifiers are unique, one is looked up to the name of the view that has it. -/
theorem lookup_namedIds {pairs : List (View × Option String)} {id : String}
    {name : Option String} (hids : ((pairs.map Prod.fst).filterMap View.id).Nodup) :
    (namedIds pairs).lookup id = some name ↔ ∃ v, (v, name) ∈ pairs ∧ v.id = some id := by
  induction pairs with
  | nil => simp [namedIds]
  | cons pair pairs ih =>
      obtain ⟨v, own⟩ := pair
      cases hid : v.id with
      | none =>
          simp only [List.map_cons, List.filterMap_cons_none hid] at hids
          rw [namedIds, hid, ih hids, exists_named_cons (by simp [hid])]
      | some x =>
          simp only [List.map_cons, List.filterMap_cons_some hid, List.nodup_cons] at hids
          rw [namedIds, hid]
          by_cases hx : id = x
          · subst hx
            rw [List.lookup_cons_self, Option.some.injEq]
            constructor
            · rintro rfl
              exact ⟨v, List.mem_cons_self .., hid⟩
            · rintro ⟨w, hw, hwid⟩
              rcases List.mem_cons.mp hw with heq | hw
              · exact (congrArg Prod.snd heq).symm
              · refine absurd ?_ hids.1
                exact List.mem_filterMap.mpr ⟨w, List.mem_map_of_mem (f := Prod.fst) hw, hwid⟩
          · rw [List.lookup_cons, beq_false_of_ne hx]
            rw [ih hids.2, exists_named_cons (by simpa [hid] using Ne.symm hx)]

/-- An identifier is looked up to a reference exactly if a child that is shown has it. -/
theorem exists_lookup_iff {children : List View} {id : String} (h : Distinct children) :
    (∃ name, (given children).ids.lookup id = some (some name)) ↔
      ∃ (i : Nat) (v : View), children[i]? = some v ∧ v.id = some id ∧ v.isGone = false := by
  have hids : (((children.zip (given children).names).map Prod.fst).filterMap View.id).Nodup := by
    rw [List.map_fst_zip (Nat.le_of_eq (length_names_given children).symm)]
    exact h.ids
  constructor
  · rintro ⟨name, hlookup⟩
    obtain ⟨v, hmem, hid⟩ := (lookup_namedIds hids).mp hlookup
    obtain ⟨i, hi⟩ := List.mem_iff_getElem?.mp hmem
    rw [List.getElem?_zip_eq_some] at hi
    refine ⟨i, v, hi.1, hid, ?_⟩
    have hneeded := (exists_nameAt_iff hi.1).mp ⟨name, by rw [nameAt, hi.2, Option.join_some]⟩
    simp only [isNeeded, Bool.and_eq_true, Bool.not_eq_true'] at hneeded
    exact hneeded.1
  · rintro ⟨i, v, hv, hid, hgone⟩
    obtain ⟨name, hname⟩ := (exists_nameAt_iff hv).mpr (by simp [isNeeded, hgone, hid])
    refine ⟨name, (lookup_namedIds hids).mpr ⟨v, ?_, hid⟩⟩
    rw [nameAt, Option.join_eq_some_iff] at hname
    exact List.mem_iff_getElem?.mpr ⟨i, List.getElem?_zip_eq_some.mpr ⟨hv, hname⟩⟩

/-- What a list without repetitions has been picked from has each of its members at one index. -/
theorem index_eq_of_nodup_filterMap {α β : Type} {pick : α → Option β} {as : List α} {i j : Nat}
    {a a' : α} {b : β} (h : (as.filterMap pick).Nodup) (hi : as[i]? = some a)
    (hj : as[j]? = some a') (ha : pick a = some b) (ha' : pick a' = some b) : i = j := by
  have hpairs := List.pairwise_filterMap.mp h
  rw [List.pairwise_iff_getElem] at hpairs
  obtain ⟨hilt, rfl⟩ := List.getElem?_eq_some_iff.mp hi
  obtain ⟨hjlt, rfl⟩ := List.getElem?_eq_some_iff.mp hj
  rcases Nat.lt_trichotomy i j with hlt | heq | hlt
  · exact absurd rfl (hpairs i j hilt hjlt hlt b ha b ha')
  · exact heq
  · exact absurd rfl (hpairs j i hjlt hilt hlt b ha' b ha)

/-- No two children have one identifier. -/
theorem Distinct.index_eq {children : List View} {i j : Nat} {v w : View} {id : String}
    (h : Distinct children) (hv : children[i]? = some v) (hw : children[j]? = some w)
    (hvid : v.id = some id) (hwid : w.id = some id) : i = j :=
  index_eq_of_nodup_filterMap h.ids hv hw hvid hwid

end LayoutCompose.Compose.References
