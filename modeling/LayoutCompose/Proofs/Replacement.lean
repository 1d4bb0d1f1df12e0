import LayoutCompose.Proofs.Essence
import Mathlib.Data.List.Forall2

/-!
One view in the place of another.

Views are alike if they have the same code in every scope and look the same to the references of
a constraint group around them. Likeness goes from the children of a group to the group, so a view
that is replaced by one like it, however deep in a layout, leaves the code of the layout as it was.
-/

namespace LayoutCompose

open Compose (Scope References)

/-- Views with the same code everywhere. The references of a constraint group depend on more than
the code of its children. -/
structure View.Alike (v w : View) : Prop where
  kind : v.kind = w.kind
  id : v.id = w.id
  isGone : v.isGone = w.isGone
  constraints : v.frame.constraints = w.frame.constraints
  code : ∀ scope, Compose.viewCode scope v = Compose.viewCode scope w

/-- Views that need and are given the same references. -/
structure View.SameOutline (v w : View) : Prop where
  id : v.id = w.id
  isGone : v.isGone = w.isGone
  constraints : v.frame.constraints = w.frame.constraints

namespace View.Alike

theorem refl (v : View) : v.Alike v :=
  ⟨rfl, rfl, rfl, rfl, fun _ => rfl⟩

theorem outline {v w : View} (h : v.Alike w) : v.SameOutline w :=
  ⟨h.id, h.isGone, h.constraints⟩

/-- Views of the same essence are alike. -/
theorem of_essential {v w : View} (h : v.essential = w.essential) : v.Alike w where
  kind := by rw [← v.kind_essential, h, w.kind_essential]
  id := by rw [← v.id_essential, h, w.id_essential]
  isGone := by rw [← v.isGone_essential, h, w.isGone_essential]
  constraints := by rw [← v.constraints_essential, h, w.constraints_essential]
  code scope := by rw [← Compose.viewCode_essential, h, Compose.viewCode_essential]

end View.Alike

namespace Compose

variable {vs ws : List View}

/-! ### References -/

namespace References

theorem isNeeded_congr {v w : View} (h : v.SameOutline w) : isNeeded v = isNeeded w := by
  rw [isNeeded, isNeeded, h.isGone, h.id, h.constraints]

theorem namesOfIds_congr (h : List.Forall₂ View.Alike vs ws) (seen taken : List String) :
    namesOfIds seen taken vs = namesOfIds seen taken ws := by
  induction h generalizing seen taken with
  | nil => rfl
  | @cons v w vs ws hvw _ ih =>
      have hname (id : String) : nameOfId taken v id = nameOfId taken w id := by
        simp only [nameOfId, hvw.isGone, hvw.kind, hvw.id]
      simp only [namesOfIds, hvw.id, hvw.kind, hname, ih]

theorem complete_congr (h : List.Forall₂ View.SameOutline vs ws) (names : List (Option String))
    (n : Nat) (taken : List String) :
    complete n taken (vs.zip names) = complete n taken (ws.zip names) := by
  induction h generalizing names n taken with
  | nil => rfl
  | @cons v w vs ws hvw _ ih =>
      rcases names with _ | ⟨_ | name, names⟩
      · rfl
      · simp only [List.zip_cons_cons, complete, isNeeded_congr hvw, ih]
      · simp only [List.zip_cons_cons, complete, ih]

theorem namedIds_congr (h : List.Forall₂ View.SameOutline vs ws) (names : List (Option String)) :
    namedIds (vs.zip names) = namedIds (ws.zip names) := by
  induction h generalizing names with
  | nil => rfl
  | @cons v w vs ws hvw _ ih =>
      cases names with
      | nil => rfl
      | cons name names => simp only [List.zip_cons_cons, namedIds, hvw.id, ih]

theorem ofChildren_congr (h : List.Forall₂ View.Alike vs ws) : ofChildren vs = ofChildren ws := by
  have houtline := h.imp fun _ _ => View.Alike.outline
  simp only [ofChildren, namesOfIds_congr h, complete_congr houtline, namedIds_congr houtline]

end References

/-! ### Groups -/

theorem enclosure_congr (h : List.Forall₂ View.Alike vs ws) (scope : Scope) (f : Frame)
    (g : Group) : enclosure scope f g vs = enclosure scope f g ws := by
  cases g with
  | scroll horizontal => simp only [enclosure, h.length_eq]
  | constraint => simp only [enclosure, References.ofChildren_congr h]
  | _ => rfl

theorem viewsCode_congr (h : List.Forall₂ View.Alike vs ws) (scope : Nat → Scope) (i : Nat) :
    viewsCode scope i vs = viewsCode scope i ws := by
  induction h generalizing i with
  | nil => rfl
  | cons hvw _ ih => simp only [viewsCode, hvw.code, ih]

end Compose

/-- Groups are alike if their children are. -/
theorem View.Alike.group {vs ws : List View} (h : List.Forall₂ View.Alike vs ws) (f : Frame)
    (g : Group) : (View.group f g vs).Alike (.group f g ws) where
  kind := rfl
  id := rfl
  isGone := rfl
  constraints := rfl
  code scope := by
    simp only [Compose.viewCode, Compose.enclosure_congr h, Compose.viewsCode_congr h]

/-! ### Replacing -/

/-- Puts a view in the place of the one reached by a path of child indices. -/
def View.replaceAt (w : View) : View → List Nat → View
  | _, [] => w
  | v, i :: path => v.withChildren (v.children.modify i fun child => replaceAt w child path)

def Layout.replaceAt (layout : Layout) (w : View) : List Nat → Layout
  | [] => layout
  | i :: path => ⟨layout.roots.modify i fun root => w.replaceAt root path⟩

theorem View.getElem?_modify {vs : List View} {i : Nat} {v : View} (change : View → View)
    (hv : vs[i]? = some v) : (vs.modify i change)[i]? = some (change v) := by
  rw [List.getElem?_modify_eq, hv]
  rfl

section Congruence

variable {R : View → View → Prop} (hrefl : ∀ v, R v v)

include hrefl

theorem View.forall₂_modify {vs : List View} {i : Nat} {v : View} {change : View → View}
    (hv : vs[i]? = some v) (h : R v (change v)) : List.Forall₂ R vs (vs.modify i change) := by
  induction vs generalizing i with
  | nil => simp at hv
  | cons u vs ih =>
      cases i with
      | zero =>
          obtain rfl := Option.some.inj hv
          exact .cons h (List.forall₂_same.mpr fun w _ => hrefl w)
      | succ i => exact .cons (hrefl u) (ih hv)

variable (hgroup : ∀ vs ws f g, List.Forall₂ R vs ws → R (.group f g vs) (.group f g ws))

include hgroup

/-- A view in which one is replaced by another. The path is followed from the root, and a relation
between the two that goes from the children of a group to the group comes back up. -/
theorem View.replaceAt_congr {root v w : View} {path : List Nat}
    (hpath : root.descend? path = some v) (h : R v w) : R root (w.replaceAt root path) := by
  induction path generalizing root with
  | nil =>
      obtain rfl := Option.some.inj hpath
      exact h
  | cons i path ih =>
      obtain ⟨child, hchild, hrest⟩ := Option.bind_eq_some_iff.mp hpath
      cases root with
      | control f c => simp [View.children] at hchild
      | group f g children =>
          exact hgroup _ _ f g (View.forall₂_modify hrefl hchild (ih hrest))

theorem Layout.forall₂_replaceAt {layout : Layout} {v w : View} {path : List Nat}
    (hpath : layout.descend? path = some v) (h : R v w) :
    List.Forall₂ R layout.roots (layout.replaceAt w path).roots := by
  cases path with
  | nil => cases hpath
  | cons i path =>
      obtain ⟨root, hroot, hrest⟩ := Option.bind_eq_some_iff.mp hpath
      exact View.forall₂_modify hrefl hroot (View.replaceAt_congr hrefl hgroup hrest h)

end Congruence

theorem View.descend?_replaceAt {root v : View} {path : List Nat} (w : View)
    (hpath : root.descend? path = some v) : (w.replaceAt root path).descend? path = some w := by
  induction path generalizing root with
  | nil => rfl
  | cons i path ih =>
      obtain ⟨child, hchild, hrest⟩ := Option.bind_eq_some_iff.mp hpath
      cases root with
      | control f c => simp [View.children] at hchild
      | group f g children =>
          exact Option.bind_eq_some_iff.mpr ⟨_, View.getElem?_modify _ hchild, ih hrest⟩

theorem Layout.descend?_replaceAt {layout : Layout} {v : View} {path : List Nat} (w : View)
    (hpath : layout.descend? path = some v) : (layout.replaceAt w path).descend? path = some w := by
  cases path with
  | nil => cases hpath
  | cons i path =>
      obtain ⟨root, hroot, hrest⟩ := Option.bind_eq_some_iff.mp hpath
      exact Option.bind_eq_some_iff.mpr
        ⟨_, View.getElem?_modify _ hroot, View.descend?_replaceAt _ hrest⟩

/-- Views that can stand for each other: wherever the first stands in a view or in a layout, the
second can be put in its place, with any children that the two are given. -/
structure View.Interchangeable (v w : View) : Prop where
  view : ∀ (root : View) (path : List Nat) (children : List View) (depth : Nat),
    root.descend? path = some (v.withChildren children) →
      ((w.withChildren children).replaceAt root path).descend? path =
          some (w.withChildren children) ∧
        ((w.withChildren children).replaceAt root path).compose depth = root.compose depth
  layout : ∀ (layout : Layout) (path : List Nat) (children : List View) (depth : Nat),
    layout.descend? path = some (v.withChildren children) →
      (layout.replaceAt (w.withChildren children) path).descend? path =
          some (w.withChildren children) ∧
        (layout.replaceAt (w.withChildren children) path).compose depth = layout.compose depth

theorem View.Interchangeable.of_essential {v w : View} (h : v.essential = w.essential) :
    v.Interchangeable w := by
  have halike (children : List View) :
      (v.withChildren children).Alike (w.withChildren children) := by
    apply View.Alike.of_essential
    rw [View.essential_withChildren, View.essential_withChildren, h]
  have hgroup (vs ws : List View) (f : Frame) (g : Group)
      (hvs : List.Forall₂ View.Alike vs ws) : (View.group f g vs).Alike (.group f g ws) :=
    .group hvs f g
  constructor
  case view =>
    intro root path children depth hpath
    have hroot := View.replaceAt_congr View.Alike.refl hgroup hpath (halike children)
    refine ⟨View.descend?_replaceAt _ hpath, ?_⟩
    rw [View.compose, View.compose, hroot.code]
  case layout =>
    intro layout path children depth hpath
    have hroots := Layout.forall₂_replaceAt View.Alike.refl hgroup hpath (halike children)
    refine ⟨Layout.descend?_replaceAt _ hpath, ?_⟩
    rw [Layout.compose, Layout.compose, Compose.viewsCode_congr hroots]

end LayoutCompose
