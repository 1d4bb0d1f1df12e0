import LayoutCompose.Proofs.Attachment

/-!
Layouts without the views that are gone.

A view that is gone has no code, but it stands among its siblings: it counts as a child, and in a
constraint group its identifier is known. If the views that are gone are removed from a layout that
can be written, the code stays the same to the letter. The one exception is a scrolling group, which
counts all its children, so those of one that is shown must be shown as well.
-/

namespace LayoutCompose

namespace View

mutual

/-- A view without the views in it that are gone. -/
def pruned : View → View
  | control f c => control f c
  | group f g vs => group f g (prunedAll vs)

def prunedAll : List View → List View
  | [] => []
  | v :: vs => if v.isGone then prunedAll vs else v.pruned :: prunedAll vs

end

@[simp] theorem frame_pruned (v : View) : v.pruned.frame = v.frame := by
  cases v <;> rfl

@[simp] theorem id_pruned (v : View) : v.pruned.id = v.id := by
  rw [View.id, View.id, frame_pruned]

@[simp] theorem isGone_pruned (v : View) : v.pruned.isGone = v.isGone := by
  rw [isGone, isGone, frame_pruned]

theorem prunedAll_eq (vs : List View) :
    prunedAll vs = (vs.filter fun v => !v.isGone).map pruned := by
  induction vs with
  | nil => rfl
  | cons v vs ih => cases hgone : v.isGone <;> simp [prunedAll, hgone, ih]

theorem prunedAll_of_shown {vs : List View} (h : ∀ v ∈ vs, v.isGone = false) :
    prunedAll vs = vs.map pruned := by
  rw [prunedAll_eq, List.filter_eq_self.mpr fun v hv => by simp [h v hv]]

end View

def Layout.pruned (layout : Layout) : Layout :=
  ⟨View.prunedAll layout.roots⟩

namespace Compose

open Kotlin (Code)

/-! ### Scopes -/

/-- What can be tied to in the second scope can be tied to in the first, under the same name. -/
inductive Scope.Carries : Scope → Scope → Prop
  | same (scope : Scope) : Carries scope scope
  | constraint {ids others : List (String × Option String)} (own : Option String) :
      (∀ id name, others.lookup id = some (some name) → ids.lookup id = some (some name)) →
        Carries (.constraint ids own) (.constraint others own)

section Carries

variable {ids others : List (String × Option String)} {own : Option String}

theorem tieTarget_of_lookup
    (h : ∀ id name, others.lookup id = some (some name) → ids.lookup id = some (some name))
    {tie : Constraint} {target : String} (htarget : tieTarget others own tie = .ok target) :
    tieTarget ids own tie = .ok target := by
  unfold tieTarget at htarget ⊢
  cases htie : tie.target with
  | parent => simpa only [htie] using htarget
  | sibling id =>
      simp only [htie] at htarget ⊢
      split at htarget
      · cases htarget
      · rename_i hown
        split at htarget
        · rename_i name hname
          rw [if_neg hown, h id name hname]
          exact htarget
        · cases htarget
        · cases htarget

theorem tieTexts_of_lookup
    (h : ∀ id name, others.lookup id = some (some name) → ids.lookup id = some (some name))
    {ties : List Constraint} {texts : List String} (htexts : tieTexts others own ties = .ok texts) :
    tieTexts ids own ties = .ok texts := by
  induction ties generalizing texts with
  | nil => exact htexts
  | cons tie ties ih =>
      simp only [tieTexts, tieText, Outcome.bind_eq_ok, Outcome.pure_eq_ok] at htexts ⊢
      obtain ⟨_, ⟨target, htarget, rfl⟩, rest, hrest, rfl⟩ := htexts
      exact ⟨_, ⟨target, tieTarget_of_lookup h htarget, rfl⟩, rest, ih hrest, rfl⟩

variable {scope other : Scope} {kind : Kind} {f : Frame}

theorem constrainCalls_of_carries (h : scope.Carries other) {calls : List String}
    (hcalls : (constrainCalls other kind f).result = .ok calls) :
    (constrainCalls scope kind f).result = .ok calls := by
  cases h with
  | same => exact hcalls
  | constraint own hlookup =>
      cases own with
      | none => exact hcalls
      | some name =>
          simp only [constrainCalls, constrainCall, Noted.result_bind, Noted.result_of,
            Noted.result_pure, Outcome.Except_bind_eq_ok, Outcome.bind_eq_ok] at hcalls ⊢
          obtain ⟨call, ⟨ties, hties, hcall⟩, hrest⟩ := hcalls
          exact ⟨call, ⟨ties, tieTexts_of_lookup hlookup hties, hcall⟩, hrest⟩

theorem chain_of_carries (h : scope.Carries other) {extras : List String} {modifiers : Kotlin.Chain}
    (hchain : (chain other kind f extras).result = .ok modifiers) :
    (chain scope kind f extras).result = .ok modifiers := by
  simp only [chain, Noted.result_mapError, Outcome.mapError_eq_ok, Noted.result_bind,
    Outcome.Except_bind_eq_ok] at hchain ⊢
  obtain ⟨ties, hties, hrest⟩ := hchain
  refine ⟨ties, constrainCalls_of_carries h hties, ?_⟩
  cases h with
  | same => exact hrest
  | constraint own => cases own <;> exact hrest

theorem controlLine_of_carries (h : scope.Carries other) {c : Control} {line : String}
    (hline : (controlLine other f c).result = .ok line) :
    (controlLine scope f c).result = .ok line := by
  cases c with
  | inclusion layout => exact hline
  | rangeSlider t values =>
      simp only [controlLine, rangeSliderLine, Noted.result_bind, Outcome.Except_bind_eq_ok]
        at hline ⊢
      obtain ⟨stops, hstops, hline⟩ := hline
      refine ⟨stops, hstops, ?_⟩
      split at hline
      · cases hline
      · rename_i hvalues
        rw [if_neg hvalues]
        simp only [Noted.result_bind, Outcome.Except_bind_eq_ok] at hline ⊢
        obtain ⟨modifiers, hmodifiers, hline⟩ := hline
        exact ⟨modifiers, chain_of_carries h hmodifiers, hline⟩
  | slider t value =>
      simp only [controlLine, sliderLine, Noted.result_bind, Outcome.Except_bind_eq_ok]
        at hline ⊢
      obtain ⟨stops, hstops, hline⟩ := hline
      refine ⟨stops, hstops, ?_⟩
      split at hline
      · cases hline
      · rename_i hvalue
        rw [if_neg hvalue]
        simp only [Noted.result_bind, Outcome.Except_bind_eq_ok] at hline ⊢
        obtain ⟨modifiers, hmodifiers, hline⟩ := hline
        exact ⟨modifiers, chain_of_carries h hmodifiers, hline⟩
  | _ =>
      simp only [controlLine, textLine, buttonLine, fieldLine, imageLine, toggleLine, plainLine]
        at hline ⊢
      rw [Noted.result_bind, Outcome.Except_bind_eq_ok] at hline ⊢
      obtain ⟨modifiers, hmodifiers, hline⟩ := hline
      exact ⟨modifiers, chain_of_carries h hmodifiers, hline⟩

end Carries

/-! ### References -/

namespace References

def shownNames (vs : List View) (names : List (Option String)) : List (Option String) :=
  ((vs.zip names).filter fun pair => !pair.1.isGone).map Prod.snd

theorem spelledName_of_isGone {v : View} (h : v.isGone = true) : spelledName v = none := by
  simp [spelledName, h]

theorem isNeeded_of_isGone {v : View} (h : v.isGone = true) : isNeeded v = false := by
  simp [isNeeded, h]

@[simp] theorem spelledName_pruned (v : View) : spelledName v.pruned = spelledName v := by
  simp [spelledName]

@[simp] theorem isNeeded_pruned (v : View) : isNeeded v.pruned = isNeeded v := by
  simp [isNeeded]

@[simp] theorem filterMap_spelledName_prunedAll (vs : List View) :
    (View.prunedAll vs).filterMap spelledName = vs.filterMap spelledName := by
  induction vs with
  | nil => rfl
  | cons v vs ih =>
      by_cases hgone : v.isGone = true
      · simp [View.prunedAll, hgone, ih, spelledName_of_isGone hgone]
      · simp [View.prunedAll, hgone, List.filterMap_cons, ih]

/-- Views that are gone take neither a name nor a number. -/
theorem complete_prunedAll (n : Nat) (taken : List String) (vs : List View) :
    complete n taken ((View.prunedAll vs).map fun v => (v, spelledName v)) =
      shownNames vs (complete n taken (vs.map fun v => (v, spelledName v))) := by
  induction vs generalizing n taken with
  | nil => rfl
  | cons v vs ih =>
      by_cases hgone : v.isGone = true
      · simp [View.prunedAll, hgone, complete, spelledName_of_isGone hgone,
          isNeeded_of_isGone hgone, shownNames, ih]
      · cases hname : spelledName v with
        | some name => simp [View.prunedAll, hgone, complete, hname, shownNames, ih]
        | none =>
            by_cases hneeded : isNeeded v = true
            · simp [View.prunedAll, hgone, complete, hname, hneeded, shownNames, ih]
            · simp [View.prunedAll, hgone, complete, hname, hneeded, shownNames, ih]

@[simp] theorem names_given_prunedAll (vs : List View) :
    (given (View.prunedAll vs)).names = shownNames vs (given vs).names := by
  simp only [given, filterMap_spelledName_prunedAll, complete_prunedAll]

theorem filterMap_shownNames {vs : List View} {names : List (Option String)}
    (h : ∀ v name, (v, some name) ∈ vs.zip names → v.isGone = false)
    (hlength : names.length = vs.length) :
    (shownNames vs names).filterMap (fun name => name) = names.filterMap (fun name => name) := by
  induction vs generalizing names with
  | nil =>
      obtain rfl := List.length_eq_zero_iff.mp hlength
      rfl
  | cons v vs ih =>
      obtain ⟨name, names, rfl⟩ := List.exists_cons_of_length_eq_add_one hlength
      have hlength : names.length = vs.length := by simpa using hlength
      have hrest := ih (fun w n hw => h w n (List.mem_cons_of_mem _ hw)) hlength
      rw [shownNames] at hrest ⊢
      cases name with
      | none => cases hgone : v.isGone <;> simp [hgone, hrest]
      | some n =>
          have hshown : v.isGone = false := h v n (by simp)
          simp [hshown, hrest]

theorem isGone_of_mem_zip_names {vs : List View} {v : View} {name : String}
    (h : (v, some name) ∈ vs.zip (given vs).names) : v.isGone = false := by
  obtain ⟨i, hi⟩ := List.mem_iff_getElem?.mp h
  rw [List.getElem?_zip_eq_some] at hi
  have hneeded := (exists_nameAt_iff hi.1).mp ⟨name, by rw [nameAt, hi.2, Option.join_some]⟩
  by_contra hgone
  rw [isNeeded_of_isGone (by simpa using hgone)] at hneeded
  cases hneeded

/-- The references that are declared do not depend on the views that are gone. -/
@[simp] theorem declared_given_prunedAll (vs : List View) :
    (given (View.prunedAll vs)).declared = (given vs).declared := by
  rw [declared, declared, names_given_prunedAll,
    filterMap_shownNames (fun _ _ => isGone_of_mem_zip_names) (length_names_given vs)]

theorem Distinct.prunedAll {vs : List View} (h : Distinct vs) : Distinct (View.prunedAll vs) where
  ids := by
    refine h.ids.sublist ?_
    have hids : (View.prunedAll vs).filterMap View.id =
        (vs.filter fun v => !v.isGone).filterMap View.id := by
      rw [View.prunedAll_eq, List.filterMap_map]
      exact List.filterMap_congr fun v _ => v.id_pruned
    rw [hids]
    exact List.filter_sublist.filterMap _
  names := by
    rw [filterMap_spelledName_prunedAll]
    exact h.names
  parent := by
    rw [filterMap_spelledName_prunedAll]
    exact h.parent

theorem mem_zip_prunedAll {vs : List View} {names : List (Option String)} {v : View}
    {name : Option String} (h : (v, name) ∈ vs.zip names) (hshown : v.isGone = false) :
    (v.pruned, name) ∈ (View.prunedAll vs).zip (shownNames vs names) := by
  induction vs generalizing names with
  | nil => cases h
  | cons u vs ih =>
      cases names with
      | nil => cases h
      | cons n names =>
          rw [List.zip_cons_cons, List.mem_cons] at h
          rcases h with heq | h
          · obtain ⟨rfl, rfl⟩ := Prod.mk.inj heq
            simp [View.prunedAll, shownNames, hshown]
          · have hrest := ih h
            cases hgone : u.isGone with
            | true => simpa [View.prunedAll, shownNames, hgone] using hrest
            | false =>
                simp only [View.prunedAll, shownNames, hgone, Bool.false_eq_true, if_false,
                  List.zip_cons_cons, List.filter_cons, Bool.not_false, if_true, List.map_cons,
                  List.mem_cons]
                exact .inr hrest

/-- An identifier that leads to a reference leads to it also without the views that are gone. -/
theorem lookup_given_prunedAll {vs : List View} {id name : String} (h : Distinct vs)
    (hlookup : (given vs).ids.lookup id = some (some name)) :
    (given (View.prunedAll vs)).ids.lookup id = some (some name) := by
  obtain ⟨v, hv, hid⟩ := (lookup_namedIds (ids_zip_names_given h)).mp hlookup
  refine (lookup_namedIds (ids_zip_names_given h.prunedAll)).mpr ⟨v.pruned, ?_, by simpa using hid⟩
  rw [names_given_prunedAll]
  exact mem_zip_prunedAll hv (isGone_of_mem_zip_names hv)

end References

/-! ### Views -/

/-- Each view of a list that is not gone has, in the list without those that are, a scope that
carries its own. The views are counted from `i` on in the one list and from `j` on in the other. -/
def ScopesCarry (scope other : Nat → Scope) : (i j : Nat) → List View → Prop
  | _, _, [] => True
  | i, j, v :: vs =>
      if v.isGone then ScopesCarry scope other i (j + 1) vs
      else (scope i).Carries (other j) ∧ ScopesCarry scope other (i + 1) (j + 1) vs

theorem scopesCarry_const (scope : Scope) (i j : Nat) (vs : List View) :
    ScopesCarry (fun _ => scope) (fun _ => scope) i j vs := by
  induction vs generalizing i j with
  | nil => trivial
  | cons v vs ih =>
      rw [ScopesCarry]
      split
      · exact ih _ _
      · exact ⟨.same scope, ih _ _⟩

/-- The names keep their views when those of views that are gone are dropped. -/
theorem scopesCarry_constraint {ids others : List (String × Option String)}
    (hids : ∀ id name, others.lookup id = some (some name) → ids.lookup id = some (some name))
    {vs : List View} {names : List (Option String)} (hlength : names.length = vs.length)
    (before shown : List (Option String)) :
    ScopesCarry (fun i => .constraint ids
        ((shown ++ References.shownNames vs names)[i]?).join)
      (fun j => .constraint others ((before ++ names)[j]?).join) shown.length before.length vs := by
  induction vs generalizing names before shown with
  | nil => trivial
  | cons v vs ih =>
      obtain ⟨name, names, rfl⟩ := List.exists_cons_of_length_eq_add_one hlength
      have hlength : names.length = vs.length := by simpa using hlength
      have hrest := ih hlength (before ++ [name])
      rw [ScopesCarry]
      cases hgone : v.isGone with
      | true => simpa [References.shownNames, hgone] using hrest shown
      | false =>
          have htail := hrest (shown ++ [name])
          simp only [References.shownNames, List.length_append, List.length_singleton,
            List.append_assoc, List.singleton_append] at htail
          simp only [Bool.false_eq_true, if_false, References.shownNames, List.zip_cons_cons,
            List.filter_cons, hgone, Bool.not_false, if_true, List.map_cons]
          refine ⟨?_, htail⟩
          simpa using Scope.Carries.constraint name hids

theorem scopesCarry_childScope {g : Group} {vs : List View} (h : Holds g vs) :
    ScopesCarry (childScope g (View.prunedAll vs)) (childScope g vs) 0 0 vs := by
  cases g with
  | constraint =>
      have hdistinct := h.distinct rfl
      have hids : ∀ id name, (References.given vs).ids.lookup id = some (some name) →
          (References.given (View.prunedAll vs)).ids.lookup id = some (some name) :=
        fun _ _ => References.lookup_given_prunedAll hdistinct
      have hcarry := scopesCarry_constraint hids (References.length_names_given vs) [] []
      simp only [← References.names_given_prunedAll, List.nil_append] at hcarry
      exact hcarry
  | _ => exact scopesCarry_const _ _ _ _

@[simp] theorem groupReferences_prunedAll (g : Group) (vs : List View) :
    groupReferences (View.prunedAll vs) g = groupReferences vs g := by
  cases g with
  | constraint => exact References.declared_given_prunedAll vs
  | _ => rfl

theorem Holds.prunedAll {g : Group} {vs : List View} (h : Holds g vs)
    (hscroll : g.kind = .scroll → ∀ v ∈ vs, v.isGone = false) : Holds g (View.prunedAll vs) where
  single hkind := by
    rw [View.prunedAll_of_shown (hscroll hkind), List.length_map]
    exact h.single hkind
  distinct hkind := (h.distinct hkind).prunedAll

/-- The code of a view is also that of the view without what is gone in it. -/
def KeepsCode (v : View) : Prop :=
  ∀ ⦃scope other : Scope⦄ ⦃code : List Code⦄, scope.Carries other →
    (viewCode other v).result = .ok code → (viewCode scope v.pruned).result = .ok code

theorem viewsCode_prunedAll {vs : List View}
    (h : ∀ v ∈ vs, v.isGone = false → KeepsCode v) {scope other : Nat → Scope} {i j : Nat}
    (hscopes : ScopesCarry scope other i j vs) {code : List Code}
    (hcode : (viewsCode other j vs).result = .ok code) :
    (viewsCode scope i (View.prunedAll vs)).result = .ok code := by
  induction vs generalizing i j code with
  | nil => exact hcode
  | cons v vs ih =>
      obtain ⟨first, rest, hfirst, hrest, rfl⟩ := viewsCode_cons_eq_ok_iff.mp hcode
      obtain ⟨hv, hvs⟩ := List.forall_mem_cons.mp h
      rw [ScopesCarry] at hscopes
      cases hgone : v.isGone with
      | true =>
          rw [hgone, if_pos rfl] at hscopes
          rw [eq_nil_of_isGone hgone hfirst, List.nil_append, View.prunedAll, if_pos hgone]
          exact ih hvs hscopes hrest
      | false =>
          rw [hgone, if_neg Bool.false_ne_true] at hscopes
          rw [View.prunedAll, hgone, if_neg Bool.false_ne_true]
          exact viewsCode_cons_eq_ok_iff.mpr ⟨first, rest,
            hv hgone hscopes.1 hfirst, ih hvs hscopes.2 hrest, rfl⟩

/-- A view that is shown keeps its code, if what is shown in it is counted right. -/
theorem viewCode_pruned {v : View} {place : Place} (hgone : v.isGone = false)
    (hscroll : ∀ p w, v.Shows place p w → w.kind = .scroll → ∀ c ∈ w.children, c.isGone = false) :
    KeepsCode v := by
  induction v generalizing place with
  | control f c =>
      intro scope other code hscope hcode
      have hshown : f.visibility ≠ .gone := beq_eq_false_iff_ne.mp hgone
      obtain ⟨text, htext, rfl⟩ := (viewCode_control_eq_ok_iff hshown).mp hcode
      exact (viewCode_control_eq_ok_iff hshown).mpr
        ⟨text, controlLine_of_carries hscope htext, rfl⟩
  | group f g vs ih =>
      intro scope other code hscope hcode
      have hshown : f.visibility ≠ .gone := beq_eq_false_iff_ne.mp hgone
      obtain ⟨hself, hchildren⟩ := (View.forall_shows_iff hgone).mp hscroll
      obtain ⟨hholds, modifiers, body, hmodifiers, hbody, rfl⟩ :=
        (viewCode_group_eq_ok_iff hshown).mp hcode
      refine (viewCode_group_eq_ok_iff hshown).mpr ⟨hholds.prunedAll hself, modifiers, body,
        chain_of_carries hscope hmodifiers, ?_, by rw [groupReferences_prunedAll]⟩
      refine viewsCode_prunedAll ?_ (scopesCarry_childScope hholds) hbody
      intro v hv hvgone
      obtain ⟨i, hi⟩ := List.mem_iff_getElem?.mp hv
      exact ih v hv hvgone (hchildren i v hi)

/-- What references keep when the views that are gone are left out: the views that are shown have
the names they had, and every tie leads where it led. -/
structure References.Kept (children : List View) (refs less : References) : Prop where
  names : less.names = References.shownNames children refs.names
  declared : less.declared = refs.declared
  targets : ∀ own tie target, tieTarget refs.ids own tie = .ok target →
    tieTarget less.ids own tie = .ok target

end Compose

/-- The views of a layout that are gone leave no trace in its code: without them the layout has the
same code, and the references of each constraint group that is shown are kept. -/
theorem Layout.compose_pruned {layout : Layout} {depth : Nat} {text : String}
    (hscroll : ∀ p w, layout.Shows p w → w.kind = .scroll → ∀ c ∈ w.children, c.isGone = false)
    (hcompose : (layout.compose depth).result = .ok text) :
    (layout.pruned.compose depth).result = .ok text ∧
      ∀ p f children, layout.Shows p (.group f .constraint children) → ∃ refs less,
        (Compose.References.ofChildren children).result = .ok refs ∧
          (Compose.References.ofChildren (View.prunedAll children)).result = .ok less ∧
            Compose.References.Kept children refs less := by
  obtain ⟨code, hcode, rfl⟩ := Layout.compose_eq_ok_iff.mp hcompose
  constructor
  · refine Layout.compose_eq_ok_iff.mpr ⟨code, ?_, rfl⟩
    refine Compose.viewsCode_prunedAll ?_ (Compose.scopesCarry_const .top 0 0 _) hcode
    intro v hv hgone
    exact Compose.viewCode_pruned hgone fun p w hw => hscroll p w ⟨v, hv, hw⟩
  · intro p f children hshows
    obtain ⟨body, -, hbody, -⟩ := Compose.linesAll_infix_of_layout_shows depth hcode hshows
    have hshown : f.visibility ≠ .gone := by
      obtain ⟨root, -, hroot⟩ := hshows
      exact beq_eq_false_iff_ne.mp hroot.shown_isGone
    obtain ⟨hholds, -⟩ := (Compose.viewCode_group_eq_ok_iff hshown).mp hbody
    have hdistinct := hholds.distinct rfl
    refine ⟨_, _, Compose.References.ofChildren_eq_ok_iff.mpr ⟨hdistinct, rfl⟩,
      Compose.References.ofChildren_eq_ok_iff.mpr ⟨hdistinct.prunedAll, rfl⟩,
      Compose.References.names_given_prunedAll children,
      Compose.References.declared_given_prunedAll children, fun own tie target => ?_⟩
    exact Compose.tieTarget_of_lookup fun id name =>
      Compose.References.lookup_given_prunedAll hdistinct

/-- Among the roots, at the front of a constraint group and inside of its children, views are gone;
the names and numbers of the others stay as they are. -/
theorem Layout.compose_pruned_nested :
    let gone : Frame := { id := some "none", visibility := .gone }
    let layout : Layout := ⟨[.control gone .plain, .group {} .constraint
      [.control gone .plain,
        .group { constraints := [⟨.top, .sibling "bar", .bottom⟩] } (.scroll false)
          [.group {} (.column {}) [.group gone (.row {}) [.control {} .plain]]],
        .control { id := some "bar" } .plain]]⟩
    ∃ text, (layout.compose 0).result = .ok text ∧ (layout.pruned.compose 0).result = .ok text := by
  intro gone layout
  obtain ⟨text, hcompose⟩ : Outcome.Succeeds (layout.compose 0).result := by
    decide +kernel
  have hscroll : ∀ root ∈ layout.roots, root.Everywhere
      fun w => w.kind = .scroll → ∀ c ∈ w.children, c.isGone = false := by
    simp [layout, View.Everywhere, View.EverywhereAll, View.kind, View.children, Group.kind,
      Control.kind, View.isGone, View.frame, gone]
  refine ⟨text, hcompose, (Layout.compose_pruned (fun p w hw => ?_) hcompose).1⟩
  obtain ⟨root, hroot, hshows⟩ := hw
  exact ((hscroll root hroot).of_shows hshows).self

end LayoutCompose
