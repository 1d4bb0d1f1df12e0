import LayoutCompose.View.Basic

/-!
The views in a view.

A view is taken apart into a control, or a group and its children, by an induction that has a
hypothesis for each child. What is said of all views in a view comes in two forms: for all of
them, and for those that are shown, with the place where each stands.
-/

namespace LayoutCompose

namespace View

/-- Induction over views, with a hypothesis for each child of a group. -/
@[induction_eliminator]
theorem inductionOn {motive : View → Prop} (control : ∀ f c, motive (.control f c))
    (group : ∀ f g vs, (∀ v ∈ vs, motive v) → motive (.group f g vs)) (v : View) : motive v := by
  refine @View.rec motive (fun vs => ∀ v ∈ vs, motive v) control group ?_ ?_ v
  · exact fun v hv => nomatch hv
  · intro u us hu hus v hv
    rcases List.mem_cons.mp hv with rfl | hv
    · exact hu
    · exact hus v hv

mutual

/-- A property holds of a view and of all views in it. -/
def Everywhere (P : View → Prop) : View → Prop
  | control f c => P (control f c)
  | group f g vs => P (group f g vs) ∧ EverywhereAll P vs

def EverywhereAll (P : View → Prop) : List View → Prop
  | [] => True
  | v :: vs => Everywhere P v ∧ EverywhereAll P vs

end

theorem Everywhere.self {P : View → Prop} {v : View} (h : v.Everywhere P) : P v := by
  cases v with
  | control f c => exact h
  | group f g vs => exact h.1

theorem everywhereAll_iff {P : View → Prop} {vs : List View} :
    EverywhereAll P vs ↔ ∀ v ∈ vs, v.Everywhere P := by
  induction vs with
  | nil => simp [EverywhereAll]
  | cons v vs ih => simp [EverywhereAll, ih]

end View

/-- Where a view stands: at the outside, or as the child of a view at an index. -/
inductive Place
  | root
  | child (parent : View) (index : Nat)

/-- The views that are shown in a view at a place, each with its own place: neither they nor any
view around them is gone. -/
inductive View.Shows (v : View) (place : Place) : Place → View → Prop
  | self : v.isGone = false → v.Shows place place v
  | child {p : Place} {u w : View} {i : Nat} :
      v.Shows place p u → u.children[i]? = some w → w.isGone = false →
        v.Shows place (.child u i) w

def Layout.Shows (layout : Layout) (p : Place) (w : View) : Prop :=
  ∃ root ∈ layout.roots, root.Shows .root p w

theorem View.Shows.isGone_eq_false {v w : View} {place p : Place} (h : v.Shows place p w) :
    v.isGone = false := by
  induction h with
  | self hv => exact hv
  | child _ _ _ ih => exact ih

/-- What holds everywhere in a view holds of what it shows. -/
theorem View.Everywhere.of_shows {P : View → Prop} {v w : View} {place p : Place}
    (h : v.Everywhere P) (hw : v.Shows place p w) : w.Everywhere P := by
  induction hw with
  | self _ => exact h
  | @child p u w i _ hw _ ih =>
      cases u with
      | control f c => simp [View.children] at hw
      | group f g vs => exact View.everywhereAll_iff.mp ih.2 w (List.mem_of_getElem? hw)

/-- What a view shows is itself and what its children show. -/
theorem View.shows_iff {v w : View} {place p : Place} :
    v.Shows place p w ↔ v.isGone = false ∧ ((p = place ∧ w = v) ∨
      ∃ (i : Nat) (c : View), v.children[i]? = some c ∧ c.Shows (.child v i) p w) := by
  constructor
  · intro h
    refine ⟨h.isGone_eq_false, ?_⟩
    induction h with
    | self _ => exact .inl ⟨rfl, rfl⟩
    | @child p u w i _ hw hgone ih =>
        right
        rcases ih with ⟨rfl, rfl⟩ | ⟨j, c, hc, hshows⟩
        · exact ⟨i, w, hw, .self hgone⟩
        · exact ⟨j, c, hc, .child hshows hw hgone⟩
  · rintro ⟨hv, ⟨rfl, rfl⟩ | ⟨i, c, hc, hshows⟩⟩
    · exact .self hv
    · induction hshows with
      | self hgone => exact .child (.self hv) hc hgone
      | child _ hw hgone ih => exact .child ih hw hgone

/-- What holds of all that a view shows holds of it and of all that its children show. -/
theorem View.forall_shows_iff {v : View} {place : Place} {P : Place → View → Prop}
    (hgone : v.isGone = false) :
    (∀ p w, v.Shows place p w → P p w) ↔ P place v ∧
      ∀ (i : Nat) (c : View), v.children[i]? = some c →
        ∀ p w, c.Shows (.child v i) p w → P p w := by
  constructor
  · intro h
    refine ⟨h place v (.self hgone), fun i c hc p w hw => h p w ?_⟩
    exact View.shows_iff.mpr ⟨hgone, .inr ⟨i, c, hc, hw⟩⟩
  · rintro ⟨hself, hchildren⟩ p w hw
    rcases (View.shows_iff.mp hw).2 with ⟨rfl, rfl⟩ | ⟨i, c, hc, hshows⟩
    · exact hself
    · exact hchildren i c hc p w hshows

end LayoutCompose
