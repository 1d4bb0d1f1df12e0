import LayoutCompose.Proofs.Replacement
import LayoutCompose.Proofs.TagSpelling

/-!
Rows and columns in the place of linear groups.

A linear group is written as a row or as a column, by its orientation, and so is the row or the
column with the same frame, gravity and children. The kind of the group shows in one place only: an
error names it. Up to that, the two have the same code or the same error in every scope, and so have
any views and layouts around them.
-/

namespace LayoutCompose

/-- The group that a linear group of the given orientation is written as. -/
def Group.stacked (gravity : Gravity) : Orientation → Group
  | .horizontal => .row gravity
  | .vertical => .column gravity

namespace Compose

def Error.nameless (e : Error) : Option String × Misfit :=
  (e.id, e.misfit)

/-- Results that are equal but for the kinds that errors name. -/
def SameButKind {α : Type} (x y : Except Error α) : Prop :=
  x.mapError Error.nameless = y.mapError Error.nameless

namespace SameButKind

variable {α β : Type} {x y : Except Error α}

theorem refl (x : Except Error α) : SameButKind x x := rfl

theorem bind {f g : α → Except Error β} (h : SameButKind x y)
    (hf : ∀ a, SameButKind (f a) (g a)) : SameButKind (x.bind f) (y.bind g) := by
  rw [SameButKind, Outcome.mapError_bind, Outcome.mapError_bind, h]
  exact congrArg _ (funext hf)

end SameButKind

end Compose

open Compose (Error Scope SameButKind)

/-- Views that have the same code in every scope and need the same references, but for the kinds
that errors name. -/
structure View.AlikeButKind (v w : View) : Prop extends View.SameOutline v w where
  code : ∀ scope, SameButKind (Compose.viewCode scope v).result (Compose.viewCode scope w).result

theorem View.AlikeButKind.refl (v : View) : v.AlikeButKind v :=
  ⟨⟨rfl, rfl, rfl⟩, fun _ => .refl _⟩

namespace Compose

variable {vs ws : List View}

namespace References

theorem nameOfId_sameButKind {v w : View} (h : v.SameOutline w) (taken : List String)
    (id : String) : SameButKind (nameOfId taken v id).result (nameOfId taken w id).result := by
  simp only [nameOfId, h.isGone, h.id]
  repeat' split
  all_goals rfl

theorem namesOfIds_sameButKind (h : List.Forall₂ View.SameOutline vs ws)
    (seen taken : List String) :
    SameButKind (namesOfIds seen taken vs).result (namesOfIds seen taken ws).result := by
  induction h generalizing seen taken with
  | nil => exact .refl _
  | @cons v w vs ws hvw _ ih =>
      simp only [namesOfIds, hvw.id]
      cases w.id with
      | none =>
          simp only [Noted.result_bind, Noted.result_pure]
          exact (ih seen taken).bind fun names => .refl _
      | some id =>
          dsimp only
          split
          · rfl
          · simp only [Noted.result_bind, Noted.result_pure]
            exact (nameOfId_sameButKind hvw taken id).bind fun name =>
              (ih _ _).bind fun names => .refl _

theorem ofChildren_sameButKind (h : List.Forall₂ View.SameOutline vs ws) :
    SameButKind (ofChildren vs).result (ofChildren ws).result := by
  simp only [ofChildren, Noted.result_bind, Noted.result_pure, complete_congr h, namedIds_congr h]
  exact (namesOfIds_sameButKind h [] []).bind fun names => .refl _

end References

theorem enclosure_sameButKind (h : List.Forall₂ View.SameOutline vs ws) (scope : Scope)
    (f : Frame) (g : Group) :
    SameButKind (enclosure scope f g vs).result (enclosure scope f g ws).result := by
  cases g with
  | scroll horizontal =>
      rw [enclosure, enclosure, h.length_eq]
      exact .refl _
  | constraint =>
      simp only [enclosure, Noted.result_bind, Noted.result_pure]
      exact (SameButKind.refl _).bind fun modifiers =>
        (References.ofChildren_sameButKind h).bind fun refs => .refl _
  | _ => exact .refl _

theorem viewsCode_sameButKind (h : List.Forall₂ View.AlikeButKind vs ws) (scope : Nat → Scope)
    (i : Nat) : SameButKind (viewsCode scope i vs).result (viewsCode scope i ws).result := by
  induction h generalizing i with
  | nil => exact .refl _
  | cons hvw _ ih =>
      simp only [viewsCode, Noted.result_bind, Noted.result_pure]
      exact (hvw.code _).bind fun code => (ih _).bind fun rest => .refl _

end Compose

theorem View.AlikeButKind.group {vs ws : List View} (f : Frame) (g : Group)
    (h : List.Forall₂ View.AlikeButKind vs ws) :
    (View.group f g vs).AlikeButKind (.group f g ws) := by
  refine ⟨⟨rfl, rfl, rfl⟩, fun scope => ?_⟩
  simp only [Compose.viewCode]
  split
  · exact .refl _
  · simp only [Noted.result_bind, Noted.result_pure]
    exact (Compose.enclosure_sameButKind (h.imp fun _ _ => View.AlikeButKind.toSameOutline) scope f
      g).bind fun around => (Compose.viewsCode_sameButKind h _ 0).bind fun body => .refl _

namespace Compose

/-- The modifiers of a view that is not an image do not depend on its kind. -/
theorem chain_sameButKind (scope : Scope) {kind other : Kind} (hkind : kind ≠ .image)
    (hother : other ≠ .image) (f : Frame) (extras : List String) :
    SameButKind (chain scope kind f extras).result (chain scope other f extras).result := by
  have hties : (constrainCalls scope kind f).result = (constrainCalls scope other f).result := by
    unfold constrainCalls
    split
    · rfl
    · rfl
    · split <;> rfl
  have hsemantics : semanticsCalls kind f = semanticsCalls other f := by
    simp only [semanticsCalls, if_neg hkind, if_neg hother]
  simp only [chain, SameButKind, Noted.result_mapError, Outcome.mapError_mapError,
    Noted.result_bind, hties, hsemantics]
  rfl

theorem enclosure_stacked (scope : Scope) (f : Frame) (gravity : Gravity)
    (orientation : Orientation) (children : List View) :
    SameButKind (enclosure scope f (.linear gravity orientation) children).result
      (enclosure scope f (.stacked gravity orientation) children).result := by
  have hlinear : Kind.linear ≠ .image := by decide
  cases orientation with
  | horizontal =>
      simp only [enclosure, Group.stacked, Noted.result_bind, Noted.result_pure]
      exact (chain_sameButKind scope hlinear (by decide) f []).bind fun modifiers => .refl _
  | vertical =>
      simp only [enclosure, Group.stacked, Noted.result_bind, Noted.result_pure]
      exact (chain_sameButKind scope hlinear (by decide) f []).bind fun modifiers => .refl _

end Compose

/-- A linear group and the row or column in its place. -/
theorem View.alikeButKind_stacked (f : Frame) (gravity : Gravity) (orientation : Orientation)
    (children : List View) : (View.group f (.linear gravity orientation) children).AlikeButKind
      (.group f (.stacked gravity orientation) children) := by
  refine ⟨⟨rfl, rfl, rfl⟩, fun scope => ?_⟩
  simp only [Compose.viewCode]
  split
  · exact .refl _
  · simp only [Noted.result_bind, Noted.result_pure]
    exact (Compose.enclosure_stacked scope f gravity orientation children).bind fun around =>
      .refl _

/-- Equivalent spellings. A document is read with the same layout when elements get other tags of
their kinds. In a view or in a layout, a linear group has the same code as a row or a column with
the same frame, gravity and children; where one cannot be written, neither can the other, and the
errors differ in the kind that they name at most. -/
theorem Layout.spellings_agree :
    (∀ (source other : String), Document.Respells source other →
      ∀ (strict : Bool) (layout : Layout),
        (read strict source).result = .ok layout ↔ (read strict other).result = .ok layout) ∧
    (∀ (layout : Layout) (path : List Nat) (f : Frame) (gravity : Gravity)
      (orientation : Orientation) (children : List View) (depth : Nat),
        layout.descend? path = some (.group f (.linear gravity orientation) children) →
          let stacked := View.group f (.stacked gravity orientation) children
          (layout.replaceAt stacked path).descend? path = some stacked ∧
            SameButKind (layout.compose depth).result
              ((layout.replaceAt stacked path).compose depth).result) ∧
    (∀ (root : View) (path : List Nat) (f : Frame) (gravity : Gravity)
      (orientation : Orientation) (children : List View) (depth : Nat),
        root.descend? path = some (.group f (.linear gravity orientation) children) →
          let stacked := View.group f (.stacked gravity orientation) children
          (stacked.replaceAt root path).descend? path = some stacked ∧
            SameButKind (root.compose depth).result
              ((stacked.replaceAt root path).compose depth).result) := by
  have hgroup (vs ws : List View) (f : Frame) (g : Group)
      (hvs : List.Forall₂ View.AlikeButKind vs ws) :
      (View.group f g vs).AlikeButKind (.group f g ws) := .group f g hvs
  refine ⟨fun source other hother strict layout => ?_,
    fun layout path f gravity orientation children depth hpath => ?_,
    fun root path f gravity orientation children depth hpath => ?_⟩
  · exact ⟨read_of_respells hother, read_of_respells hother.symm⟩
  · have hroots := Layout.forall₂_replaceAt View.AlikeButKind.refl hgroup hpath
      (View.alikeButKind_stacked f gravity orientation children)
    refine ⟨Layout.descend?_replaceAt _ hpath, ?_⟩
    simp only [Layout.compose, Noted.result_bind, Noted.result_pure]
    exact (Compose.viewsCode_sameButKind hroots _ 0).bind fun code => .refl _
  · have hroot := View.replaceAt_congr View.AlikeButKind.refl hgroup hpath
      (View.alikeButKind_stacked f gravity orientation children)
    refine ⟨View.descend?_replaceAt _ hpath, ?_⟩
    simp only [View.compose, Noted.result_bind, Noted.result_pure]
    exact (hroot.code _).bind fun code => .refl _

/-- A box with a slider in two spellings; and, inside a box, a row in the place of a linear group
that has a weight there. -/
theorem Layout.spellings_agree_slider :
    let source := "<FrameLayout ><SeekBar a:max=\"5\"/></FrameLayout>"
    let other := "<Box ><Slider a:max=\"5\"/></Box>"
    let linear := View.group { weight := .one } (.linear {} .horizontal) []
    let row := View.group { weight := .one } (.row {}) []
    let layout : Layout := ⟨[.group {} (.box {}) [linear]]⟩
    (∃ read, (Layout.read true source).result = .ok read ∧
      (Layout.read true other).result = .ok read) ∧
    (layout.compose 0).result = .error ⟨.linear, none, .unweighable⟩ ∧
      SameButKind (layout.compose 0).result ((layout.replaceAt row [0, 0]).compose 0).result := by
  intro source other linear row layout
  have hrespells : Document.Respells source other := by
    let box := Markup.Spelling.ofSynonyms "FrameLayout" "Box" ⟨.box, by decide +kernel⟩
    let slider := Markup.Spelling.ofSynonyms "SeekBar" "Slider" ⟨.slider, by decide +kernel⟩
    have hitems : (Markup.tokens (Document.unmarked source)).items =
        [.opening (box.name ++ [' ']), .opening (slider.name ++ (" a:max=\"5\"".toList ++ ['/'])),
          .closing (box.name ++ [])] := by
      decide +kernel
    have hstop : (Markup.tokens (Document.unmarked source)).stop = none := by decide +kernel
    have hclose : Markup.Respelled [box] [.closing (box.name ++ [])] [.closing (box.other ++ [])] :=
      .close box (by simp) (.nil _)
    refine ⟨[], _, _, by decide +kernel, by rw [← hitems, ← hstop],
      .start box (by simp [Markup.isSpace]) (by decide +kernel)
        (.empty slider (by simp [Markup.isSpace]) hclose), ?_⟩
    decide +kernel
  obtain ⟨hread, hcompose, -⟩ := spellings_agree
  obtain ⟨read, hsource⟩ : Outcome.Succeeds (Layout.read true source).result := by decide +kernel
  exact ⟨⟨read, hsource, (hread source other hrespells true read).mp hsource⟩, by decide +kernel,
    (hcompose layout [0, 0] { weight := .one } {} .horizontal [] 0 rfl).2⟩

end LayoutCompose
