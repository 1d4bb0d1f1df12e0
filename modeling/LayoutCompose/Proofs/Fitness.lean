import LayoutCompose.Proofs.ReadValues
import LayoutCompose.Proofs.Rounding
import LayoutCompose.Proofs.ViewCode

/-!
Which layouts can be written as code.

A view that is shown has to fit into its place: its values have to make sense together, and
some of them only inside a row or a column, or among the children of a constraint group. What
this asks is stated here for one view and its place, without the functions that write code. A
layout that has been read is then written exactly if every view that it shows fits.
-/

namespace LayoutCompose

open Outcome (Succeeds succeeds_bind_iff succeeds_bind_ok)

/-! ### What fits -/

/-- The step divides a track evenly, up to the tolerance, or there is nothing to divide. -/
def Track.IsEven (t : Track) : Prop :=
  let intervals := (t.upper.sub t.lower).div t.step
  t.step.le Single.zero = true ∨ (t.upper.sub t.lower).eq Single.zero = true ∨
    Compose.stepTolerance.lt (intervals.sub intervals.round).abs = false

/-- The bounds of a track are in order and its step divides it. -/
structure Track.Fits (t : Track) : Prop where
  ordered : t.lower.le t.upper = true
  even : t.IsEven

def Track.Covers (t : Track) (x : Single) : Prop :=
  t.lower.le x = true ∧ x.le t.upper = true

/-- What is asked of a control by itself: a limit leaves a line, and the thumbs of a slider stand
on its track. Without values, they stand at the ends of it. -/
def Control.Fits : Control → Prop
  | text props | button props | field props _ _ _ => props.maxLines ≠ some 0
  | slider t value => t.Fits ∧ t.Covers (value.getD t.lower)
  | rangeSlider t values =>
      t.Fits ∧ t.Covers (values.getD ⟨t.lower, t.upper⟩).lower ∧
        t.Covers (values.getD ⟨t.lower, t.upper⟩).upper
  | _ => True

def Edges.NonNegative (e : Edges) : Prop :=
  ∀ side ∈ e.sides, ∀ d ∈ side, d.isNegative = false

/-- What is asked of a frame; a weight is allowed only where it is `weighed`. -/
structure Frame.Fits (weighed : Prop) (f : Frame) : Prop where
  alpha : Single.zero.le f.alpha = true ∧ f.alpha.le Single.one = true
  padding : f.padding.NonNegative
  margin : f.margin.NonNegative
  weight : Single.zero.lt f.weight = true → weighed

def Kind.isLine : Kind → Bool
  | row | column | linear | radioGroup | scroll => true
  | _ => false

/-- A place among the children of a row or a column. -/
def Place.IsWeighed : Place → Prop
  | root => False
  | child parent _ => parent.kind.isLine = true

/-- A tie of the child at an index leads to the parent or to another child that is shown. -/
def Constraint.Leads (children : List View) (index : Nat) (tie : Constraint) : Prop :=
  match tie.target with
  | .parent => True
  | .sibling id =>
      ∃ (i : Nat) (v : View), i ≠ index ∧ children[i]? = some v ∧ v.id = some id ∧
        v.isGone = false

/-- What is asked of a view that is shown at a place. -/
structure View.Fits (place : Place) (v : View) : Prop where
  /-- A scrolling group has just one child. -/
  scroll : v.kind = .scroll → v.children.length = 1
  /-- Sliders and limits on lines make sense. -/
  control : ∀ f c, v = .control f c → c.Fits
  /-- Inclusions aside, a view can be drawn and has room. -/
  frame : v.kind ≠ .inclusion → v.frame.Fits place.IsWeighed
  /-- In a constraint group, the ties of all but inclusions lead somewhere. -/
  ties : ∀ parent i, place = .child parent i → parent.kind = .constraint →
    v.kind ≠ .inclusion → ∀ tie ∈ v.frame.constraints, tie.Leads parent.children i
  /-- The children of a constraint group can be told apart. -/
  names : v.kind = .constraint → Compose.References.Distinct v.children

/-! ### Numbers -/

theorem Single.lt_eq_false_iff {x y : Single} (hx : x.isFinite = true) (hy : y.isFinite = true) :
    x.lt y = false ↔ y.le x = true := by
  simp [lt, le, isNaN_eq_false hx, isNaN_eq_false hy]

theorem Single.le_trans {x y z : Single} (hxy : x.le y = true) (hyz : y.le z = true) :
    x.le z = true := by
  simp only [le, Bool.and_eq_true, Bool.not_eq_true', decide_eq_true_eq] at *
  exact ⟨⟨hxy.1.1, hyz.1.2⟩, Int.le_trans hxy.2 hyz.2⟩

namespace Compose

/-! ### Modifiers -/

/-- What is asked of a frame by the modifiers in a scope. -/
structure FrameFits (scope : Scope) (f : Frame) : Prop where
  frame : f.Fits (scope = .row ∨ scope = .column)
  ties : ∀ ids name, scope = .constraint ids (some name) →
    ∀ tie ∈ f.constraints, Succeeds (tieTarget ids f.id tie)

@[simp] theorem tieText_succeeds {ids : List (String × Option String)} {own : Option String}
    {tie : Constraint} :
    Succeeds (tieText ids own tie) ↔ Succeeds (tieTarget ids own tie) :=
  succeeds_bind_ok

theorem tieTexts_succeeds {ids : List (String × Option String)} {own : Option String}
    {ties : List Constraint} :
    Succeeds (tieTexts ids own ties) ↔ ∀ tie ∈ ties, Succeeds (tieTarget ids own tie) := by
  induction ties with
  | nil => simp [tieTexts]
  | cons tie ties ih =>
      rw [List.forall_mem_cons, ← ih, ← tieText_succeeds]
      exact succeeds_bind_iff fun text => succeeds_bind_ok

theorem constrainCall_succeeds {ids : List (String × Option String)} {name : String}
    {f : Frame} :
    Succeeds (constrainCall ids name f) ↔
      ∀ tie ∈ f.constraints, Succeeds (tieTarget ids f.id tie) := by
  rw [← tieTexts_succeeds]
  exact succeeds_bind_ok

theorem constrainCalls_succeeds {scope : Scope} {kind : Kind} {f : Frame} :
    Succeeds (constrainCalls scope kind f).result ↔ ∀ ids name,
      scope = .constraint ids (some name) →
        ∀ tie ∈ f.constraints, Succeeds (tieTarget ids f.id tie) := by
  unfold constrainCalls
  split
  · rename_i ids name
    rw [Noted.result_bind]
    constructor
    · rintro h ids' name' heq
      obtain ⟨rfl, -⟩ := Scope.constraint.inj heq
      exact constrainCall_succeeds.mp (succeeds_bind_ok.mp h)
    · intro h
      exact succeeds_bind_ok.mpr (constrainCall_succeeds.mpr (h ids name rfl))
  · simp
  · rename_i hscope _
    have hnone : ∀ ids name, scope ≠ .constraint ids (some name) := hscope
    split
    · simp [hnone]
    · simp [hnone]

theorem weightCalls_succeeds {scope : Scope} {f : Frame} :
    Succeeds (weightCalls scope f) ↔
      (Single.zero.lt f.weight = true → scope = .row ∨ scope = .column) := by
  unfold weightCalls
  split
  · rename_i hweight
    cases scope <;> simp [hweight]
  · rename_i hweight
    simp [hweight]

@[simp] theorem hasNegative_eq_false_iff {e : Edges} : e.hasNegative = false ↔ e.NonNegative := by
  rw [Edges.hasNegative, List.any_eq_false]
  refine forall₂_congr fun side _ => ?_
  cases side <;> simp

@[simp] theorem marginCalls_succeeds {f : Frame} :
    Succeeds (marginCalls f) ↔ f.margin.NonNegative := by
  rw [marginCalls, ← hasNegative_eq_false_iff]
  cases f.margin.hasNegative <;> simp

@[simp] theorem paddingCalls_succeeds {f : Frame} :
    Succeeds (paddingCalls f) ↔ f.padding.NonNegative := by
  rw [paddingCalls, ← hasNegative_eq_false_iff]
  cases f.padding.hasNegative <;> simp

@[simp] theorem alphaCalls_succeeds {f : Frame} :
    Succeeds (alphaCalls f) ↔ Single.zero.le f.alpha = true ∧ f.alpha.le Single.one = true := by
  unfold alphaCalls
  split
  · rename_i h
    rw [Bool.not_eq_true', Bool.and_eq_false_iff] at h
    refine iff_of_false (Outcome.not_succeeds_error _) fun hle => ?_
    rcases h with h | h
    · exact Bool.false_ne_true (h.symm.trans hle.1)
    · exact Bool.false_ne_true (h.symm.trans hle.2)
  · rename_i h
    rw [Bool.not_eq_true, Bool.not_eq_false', Bool.and_eq_true] at h
    refine iff_of_true ?_ h
    split
    · exact Outcome.succeeds_ok _
    · split <;> exact Outcome.succeeds_ok _

@[simp] theorem chain_succeeds {scope : Scope} {kind : Kind} {f : Frame} {extras : List String} :
    Succeeds (chain scope kind f extras).result ↔ FrameFits scope f := by
  rw [chain, Noted.result_mapError, Outcome.succeeds_mapError]
  simp only [Noted.result_bind, Noted.result_of, Noted.result_pure]
  rw [succeeds_bind_iff fun ties => succeeds_bind_iff fun weight => succeeds_bind_iff fun margin =>
      succeeds_bind_iff fun alpha => succeeds_bind_ok, constrainCalls_succeeds,
    weightCalls_succeeds, marginCalls_succeeds, alphaCalls_succeeds, paddingCalls_succeeds]
  constructor
  · rintro ⟨hties, hweight, hmargin, halpha, hpadding⟩
    exact ⟨⟨halpha, hpadding, hmargin, hweight⟩, hties⟩
  · rintro ⟨⟨halpha, hpadding, hmargin, hweight⟩, hties⟩
    exact ⟨hties, hweight, hmargin, halpha, hpadding⟩

/-! ### Controls -/

@[simp] theorem lineLimit_succeeds {limit : Option Nat} :
    Succeeds (lineLimit limit) ↔ limit ≠ some 0 := by
  unfold lineLimit
  split
  · simp
  · rename_i h
    simpa using h

@[simp] theorem blame_succeeds {kind : Kind} {f : Frame} {α : Type} {x : Except Misfit α} :
    Succeeds (blame kind f x).result ↔ Succeeds x :=
  Outcome.succeeds_mapError

@[simp] theorem textArguments_succeeds {call : Kotlin.Call} {props : TextProps} :
    Succeeds (textArguments call props) ↔ props.maxLines ≠ some 0 := by
  rw [← lineLimit_succeeds]
  exact succeeds_bind_ok

theorem trackStops_succeeds {t : Track} (ht : t.Proper) : Succeeds (trackStops t) ↔ t.Fits := by
  have hordered := Single.lt_eq_false_iff ht.upper ht.lower
  unfold trackStops
  dsimp only
  split
  · rename_i hlt
    refine iff_of_false (Outcome.not_succeeds_error _) fun h => ?_
    rw [hordered.mpr h.ordered] at hlt
    exact Bool.false_ne_true hlt
  · rename_i hlt
    have hle := hordered.mp (Bool.not_eq_true _ ▸ hlt)
    split
    · rename_i hnothing
      refine iff_of_true (Outcome.succeeds_ok _) ⟨hle, ?_⟩
      rcases (Bool.or_eq_true _ _).mp hnothing with h | h
      · exact .inl h
      · exact .inr (.inl h)
    · rename_i hsome
      rw [Bool.or_eq_true, not_or] at hsome
      split
      · rename_i huneven
        refine iff_of_false (Outcome.not_succeeds_error _) fun h => ?_
        rcases h.even with hstep | hspan | heven
        · exact hsome.1 hstep
        · exact hsome.2 hspan
        · rw [heven] at huneven
          exact Bool.false_ne_true huneven
      · rename_i heven
        exact iff_of_true (Outcome.succeeds_ok _) ⟨hle, .inr (.inr (Bool.not_eq_true _ ▸ heven))⟩

@[simp] theorem textLine_succeeds {scope : Scope} {f : Frame} {props : TextProps} :
    Succeeds (textLine scope f props).result ↔ FrameFits scope f ∧ props.maxLines ≠ some 0 := by
  simp only [textLine, Noted.result_bind, Noted.result_pure]
  rw [succeeds_bind_iff fun modifiers => succeeds_bind_ok.trans
    (blame_succeeds.trans textArguments_succeeds), chain_succeeds]

@[simp] theorem buttonLine_succeeds {scope : Scope} {f : Frame} {props : TextProps} :
    Succeeds (buttonLine scope f props).result ↔ FrameFits scope f ∧ props.maxLines ≠ some 0 := by
  simp only [buttonLine, Noted.result_bind, Noted.result_pure]
  rw [succeeds_bind_iff fun modifiers => succeeds_bind_ok.trans
    (blame_succeeds.trans textArguments_succeeds), chain_succeeds]

@[simp] theorem fieldLine_succeeds {scope : Scope} {f : Frame} {props : TextProps}
    {hint : Option Caption} {input : InputType} {singleLine : Bool} :
    Succeeds (fieldLine scope f props hint input singleLine).result ↔
      FrameFits scope f ∧ props.maxLines ≠ some 0 := by
  simp only [fieldLine, Noted.result_bind, Noted.result_pure]
  rw [succeeds_bind_iff fun modifiers => succeeds_bind_ok.trans
    (blame_succeeds.trans lineLimit_succeeds), chain_succeeds]

@[simp] theorem imageLine_succeeds {scope : Scope} {f : Frame} {source : Reference}
    {scaling : Scaling} :
    Succeeds (imageLine scope f source scaling).result ↔ FrameFits scope f := by
  simp only [imageLine, Noted.result_bind, Noted.result_pure]
  rw [succeeds_bind_ok, chain_succeeds]

@[simp] theorem toggleLine_succeeds {scope : Scope} {f : Frame} {form : ToggleForm}
    {label : Caption} {checked : Bool} :
    Succeeds (toggleLine scope f form label checked).result ↔ FrameFits scope f := by
  rw [toggleLine, Noted.result_bind]
  cases hlabel : label.isEmpty with
  | true =>
      simp only [if_true, Noted.result_pure]
      rw [succeeds_bind_ok, chain_succeeds]
  | false =>
      simp only [Bool.false_eq_true, if_false, Noted.result_pure]
      rw [succeeds_bind_ok, chain_succeeds]

@[simp] theorem plainLine_succeeds {scope : Scope} {f : Frame} :
    Succeeds (plainLine scope f).result ↔ FrameFits scope f := by
  simp only [plainLine, Noted.result_bind, Noted.result_pure]
  rw [succeeds_bind_ok, chain_succeeds]

theorem inclusionLine_succeeds {f : Frame} {layout : Reference} :
    Succeeds (inclusionLine f layout).result := by
  unfold inclusionLine
  split <;> simp

theorem sliderLine_succeeds {scope : Scope} {f : Frame} {t : Track} {value : Option Single}
    (ht : t.Proper) :
    Succeeds (sliderLine scope f t value).result ↔
      t.Fits ∧ t.Covers (value.getD t.lower) ∧ FrameFits scope f := by
  rw [sliderLine, Noted.result_bind, ← trackStops_succeeds ht, ← blame_succeeds]
  refine succeeds_bind_iff fun stops => ?_
  have hcontains : Span.contains ⟨t.lower, t.upper⟩ (value.getD t.lower) = true ↔
      t.Covers (value.getD t.lower) := Bool.and_eq_true_iff
  dsimp only
  split
  · rename_i h
    have houtside : ¬ t.Covers (value.getD t.lower) := by simpa [← hcontains] using h
    exact iff_of_false (Outcome.not_succeeds_error _) fun hfits => houtside hfits.1
  · rename_i h
    have hcovers : t.Covers (value.getD t.lower) := by simpa [← hcontains] using h
    simp only [Noted.result_bind, Noted.result_pure]
    rw [succeeds_bind_ok, chain_succeeds]
    exact (and_iff_right hcovers).symm

/-- Thumbs in order stand on a track if they do not stand outside of it at the near end. -/
theorem covers_iff {t : Track} {r : Span} (ht : t.Proper) (hr : r.Proper) :
    (r.lower.lt t.lower || t.upper.lt r.upper) = false ↔
      t.Covers r.lower ∧ t.Covers r.upper := by
  have hordered := (Single.lt_eq_false_iff hr.upper hr.lower).mp hr.ordered
  rw [Bool.or_eq_false_iff, Single.lt_eq_false_iff hr.lower ht.lower,
    Single.lt_eq_false_iff ht.upper hr.upper]
  constructor
  · rintro ⟨hlower, hupper⟩
    exact ⟨⟨hlower, Single.le_trans hordered hupper⟩,
      ⟨Single.le_trans hlower hordered, hupper⟩⟩
  · rintro ⟨hlower, hupper⟩
    exact ⟨hlower.1, hupper.2⟩

theorem rangeSliderLine_succeeds {scope : Scope} {f : Frame} {t : Track} {values : Option Span}
    (ht : t.Proper) (hvalues : ∀ r ∈ values, r.Proper) :
    Succeeds (rangeSliderLine scope f t values).result ↔
      t.Fits ∧ (t.Covers (values.getD ⟨t.lower, t.upper⟩).lower ∧
        t.Covers (values.getD ⟨t.lower, t.upper⟩).upper) ∧ FrameFits scope f := by
  by_cases hfits : t.Fits
  · have hproper : (values.getD ⟨t.lower, t.upper⟩).Proper := by
      cases values with
      | none => exact ⟨ht.lower, ht.upper, (Single.lt_eq_false_iff ht.upper ht.lower).mpr hfits.1⟩
      | some r => exact hvalues r rfl
    have hcovers := covers_iff ht hproper
    rw [rangeSliderLine, Noted.result_bind, ← trackStops_succeeds ht, ← blame_succeeds]
    refine succeeds_bind_iff fun stops => ?_
    dsimp only
    split
    · rename_i h
      refine iff_of_false (Outcome.not_succeeds_error _) fun hline => ?_
      rw [hcovers.mpr hline.1] at h
      exact Bool.false_ne_true h
    · rename_i h
      simp only [Noted.result_bind, Noted.result_pure]
      rw [succeeds_bind_ok, chain_succeeds]
      exact (and_iff_right (hcovers.mp (Bool.not_eq_true _ ▸ h))).symm
  · refine iff_of_false (fun hline => hfits ?_) fun hline => hfits hline.1
    obtain ⟨text, htext⟩ := hline
    rw [rangeSliderLine, Noted.result_bind, Outcome.Except_bind_eq_ok] at htext
    obtain ⟨stops, hstops, -⟩ := htext
    exact (trackStops_succeeds ht).mp (blame_succeeds.mp ⟨stops, hstops⟩)

theorem controlLine_succeeds {scope : Scope} {f : Frame} {c : Control} (hc : c.Proper) :
    Succeeds (controlLine scope f c).result ↔
      c.Fits ∧ (c.kind ≠ .inclusion → FrameFits scope f) := by
  cases c with
  | text props => simp [controlLine, textLine_succeeds, Control.Fits, Control.kind, and_comm]
  | button props => simp [controlLine, buttonLine_succeeds, Control.Fits, Control.kind, and_comm]
  | field props hint input singleLine =>
      simp [controlLine, fieldLine_succeeds, Control.Fits, Control.kind, and_comm]
  | image source scaling => simp [controlLine, imageLine_succeeds, Control.Fits, Control.kind]
  | toggle form label checked =>
      cases form <;> simp [controlLine, toggleLine_succeeds, Control.Fits, Control.kind,
        ToggleForm.kind]
  | rangeSlider t values =>
      simp [controlLine, rangeSliderLine_succeeds hc.1 hc.2, Control.Fits, Control.kind, and_assoc]
  | slider t value =>
      simp [controlLine, sliderLine_succeeds hc.1, Control.Fits, Control.kind, and_assoc]
  | plain => simp [controlLine, plainLine_succeeds, Control.Fits, Control.kind]
  | inclusion layout =>
      simp [controlLine, inclusionLine_succeeds, Control.Fits, Control.kind]

/-! ### Places -/

def placeScope : Place → Scope
  | .child (.group _ g children) i => childScope g children i
  | _ => .top

theorem placeScope_isWeighed {place : Place} :
    (placeScope place = .row ∨ placeScope place = .column) ↔ place.IsWeighed := by
  have hlinear (orientation : Orientation) :
      linearScope orientation = .row ∨ linearScope orientation = .column := by
    cases orientation <;> simp [linearScope]
  cases place with
  | root => simp [placeScope, Place.IsWeighed]
  | child parent i =>
      cases parent with
      | control f c =>
          cases c with
          | toggle form label checked =>
              cases form <;> simp [placeScope, Place.IsWeighed, View.kind, Control.kind,
                ToggleForm.kind, Kind.isLine]
          | _ => simp [placeScope, Place.IsWeighed, View.kind, Control.kind, Kind.isLine]
      | group f g children =>
          cases g <;> simp [placeScope, childScope, Place.IsWeighed, View.kind, Group.kind,
            Kind.isLine, hlinear]

/-- The view is the child that its place says, and in a constraint group the children can be told
apart. -/
def Placed (v : View) : Place → Prop
  | .root => True
  | .child parent i => parent.children[i]? = some v ∧
      (parent.kind = .constraint → References.Distinct parent.children)

/-- A tie is written exactly if it leads to the parent or to another child that is shown. -/
theorem tieTarget_succeeds {children : List View} {i : Nat} {v : View} {tie : Constraint}
    (hdistinct : References.Distinct children) (hv : children[i]? = some v) :
    Succeeds (tieTarget (References.given children).ids v.id tie) ↔ tie.Leads children i := by
  unfold tieTarget Constraint.Leads
  cases tie.target with
  | parent => simp
  | sibling id =>
      dsimp only
      by_cases hown : v.id = some id
      · rw [if_pos hown]
        refine iff_of_false (Outcome.not_succeeds_error _) ?_
        rintro ⟨j, w, hne, hw, hid, -⟩
        exact hne (hdistinct.index_eq hw hv hid hown)
      · rw [if_neg hown]
        have hleads : (∃ name, (References.given children).ids.lookup id = some (some name)) ↔
            ∃ (j : Nat) (w : View), j ≠ i ∧ children[j]? = some w ∧ w.id = some id ∧
              w.isGone = false := by
          rw [References.exists_lookup_iff hdistinct]
          refine exists₂_congr fun j w => (and_iff_right_of_imp ?_).symm
          rintro ⟨hw, hid, -⟩ rfl
          rw [Option.some.inj (hv.symm.trans hw)] at hown
          exact hown hid
        rw [← hleads]
        cases (References.given children).ids.lookup id with
        | none => simp
        | some name => cases name <;> simp

/-- Only the children of constraint groups have a scope with references. -/
theorem placeScope_eq_constraint {place : Place} {ids : List (String × Option String)}
    {own : Option String} (h : placeScope place = .constraint ids own) :
    ∃ f children i, place = .child (.group f .constraint children) i ∧
      ids = (References.given children).ids ∧ own = (References.given children).nameAt i := by
  have hlinear (orientation : Orientation) : linearScope orientation ≠ .constraint ids own := by
    cases orientation <;> simp [linearScope]
  unfold placeScope at h
  split at h
  · rename_i f g children i
    cases g with
    | constraint =>
        obtain ⟨rfl, rfl⟩ := Scope.constraint.inj h
        exact ⟨f, children, i, rfl, rfl, rfl⟩
    | linear gravity orientation => exact absurd h (hlinear _)
    | radioGroup gravity orientation => exact absurd h (hlinear _)
    | scroll horizontal => exact absurd h (hlinear _)
    | _ => exact nomatch h
  · exact nomatch h

theorem eq_constraint_of_kind {parent v : View} {i : Nat} (hchild : parent.children[i]? = some v)
    (hkind : parent.kind = .constraint) :
    ∃ f children, parent = .group f .constraint children := by
  cases parent with
  | control f c => simp [View.children] at hchild
  | group f g children =>
      cases g with
      | constraint => exact ⟨f, children, rfl⟩
      | _ => cases hkind

theorem frameFits_placeScope {v : View} {place : Place} (hplace : Placed v place)
    (hgone : v.isGone = false) :
    FrameFits (placeScope place) v.frame ↔ v.frame.Fits place.IsWeighed ∧
      ∀ parent i, place = .child parent i → parent.kind = .constraint →
        ∀ tie ∈ v.frame.constraints, tie.Leads parent.children i := by
  rw [← propext placeScope_isWeighed]
  constructor
  · rintro ⟨hframe, hties⟩
    refine ⟨hframe, ?_⟩
    rintro parent i rfl hkind tie htie
    obtain ⟨f, children, rfl⟩ := eq_constraint_of_kind hplace.1 hkind
    have hneeded : References.isNeeded v = true := by
      simp [References.isNeeded, hgone, List.ne_nil_of_mem htie]
    obtain ⟨name, hname⟩ := (References.exists_nameAt_iff hplace.1).mpr hneeded
    refine (tieTarget_succeeds (hplace.2 hkind) hplace.1).mp (hties _ name ?_ tie htie)
    exact congrArg (Scope.constraint _) hname
  · rintro ⟨hframe, hties⟩
    refine ⟨hframe, ?_⟩
    rintro ids name hscope tie htie
    obtain ⟨f, children, i, rfl, rfl, -⟩ := placeScope_eq_constraint hscope
    exact (tieTarget_succeeds (hplace.2 rfl) hplace.1).mpr (hties _ i rfl rfl tie htie)

/-! ### Views -/

theorem viewsCode_succeeds {scope : Nat → Scope} {i : Nat} {vs : List View} :
    Succeeds (viewsCode scope i vs).result ↔ ∀ (j : Nat) (v : View), vs[j]? = some v →
      Succeeds (viewCode (scope (i + j)) v).result := by
  induction vs generalizing i with
  | nil => simp [viewsCode]
  | cons v vs ih =>
      have hcons : Succeeds (viewsCode scope i (v :: vs)).result ↔
          Succeeds (viewCode (scope i) v).result ∧
            Succeeds (viewsCode scope (i + 1) vs).result := by
        simp only [viewsCode, Noted.result_bind, Noted.result_pure]
        exact succeeds_bind_iff fun code => succeeds_bind_ok
      rw [hcons, ih]
      constructor
      · rintro ⟨hv, hvs⟩ j w hw
        cases j with
        | zero =>
            obtain rfl := Option.some.inj hw
            exact hv
        | succ j =>
            have hindex : i + (j + 1) = i + 1 + j := by omega
            rw [hindex]
            exact hvs j w hw
      · intro h
        refine ⟨h 0 v rfl, fun j w hw => ?_⟩
        have hindex : i + 1 + j = i + (j + 1) := by omega
        rw [hindex]
        exact h (j + 1) w hw

theorem fits_control_iff {f : Frame} {c : Control} {place : Place} :
    (View.control f c).Fits place ↔ c.Fits ∧ (c.kind ≠ .inclusion →
      f.Fits place.IsWeighed ∧ ∀ parent i, place = .child parent i → parent.kind = .constraint →
        ∀ tie ∈ f.constraints, tie.Leads parent.children i) := by
  have hgroup : (View.control f c).kind.isGroup = false := View.isGroup_kind_control f c
  constructor
  · intro h
    exact ⟨h.control f c rfl, fun hkind => ⟨h.frame hkind, fun parent i hplace hparent =>
      h.ties parent i hplace hparent hkind⟩⟩
  · rintro ⟨hcontrol, hframe⟩
    refine ⟨?_, ?_, fun hkind => (hframe hkind).1, ?_, ?_⟩
    · intro hkind
      rw [hkind] at hgroup
      exact nomatch hgroup
    · rintro f' c' heq
      obtain ⟨-, rfl⟩ := View.control.inj heq
      exact hcontrol
    · intro parent i hplace hparent hkind
      exact (hframe hkind).2 parent i hplace hparent
    · intro hkind
      rw [hkind] at hgroup
      exact nomatch hgroup

theorem fits_group_iff {f : Frame} {g : Group} {children : List View} {place : Place} :
    (View.group f g children).Fits place ↔ Holds g children ∧ f.Fits place.IsWeighed ∧
      ∀ parent i, place = .child parent i → parent.kind = .constraint →
        ∀ tie ∈ f.constraints, tie.Leads parent.children i := by
  have hkind : (View.group f g children).kind ≠ .inclusion := by
    intro h
    have hgroup : (View.group f g children).kind.isGroup = true :=
      View.isGroup_kind_group f g children
    rw [h] at hgroup
    exact nomatch hgroup
  constructor
  · intro h
    exact ⟨⟨h.scroll, h.names⟩, h.frame hkind, fun parent i hplace hparent =>
      h.ties parent i hplace hparent hkind⟩
  · rintro ⟨hholds, hframe, hties⟩
    exact ⟨hholds.single, fun f' c heq => (nomatch heq), fun _ => hframe,
      fun parent i hplace hparent _ => hties parent i hplace hparent, hholds.distinct⟩

/-- A view that is gone has no code and shows nothing. -/
theorem viewCode_succeeds_of_isGone {scope : Scope} {v : View} {place : Place}
    (hgone : v.isGone = true) :
    Succeeds (viewCode scope v).result ↔ ∀ p w, v.Shows place p w → w.Fits p := by
  refine iff_of_true ⟨[], viewCode_of_isGone hgone⟩ fun p w hw => ?_
  rw [hw.isGone_eq_false] at hgone
  exact nomatch hgone

theorem viewCode_control_succeeds {f : Frame} {c : Control} {place : Place} (hc : c.Proper)
    (hplace : Placed (.control f c) place) :
    Succeeds (viewCode (placeScope place) (.control f c)).result ↔
      ∀ p w, (View.control f c).Shows place p w → w.Fits p := by
  cases hgone : (View.control f c).isGone with
  | true => exact viewCode_succeeds_of_isGone hgone
  | false =>
      have hshown : f.visibility ≠ .gone := beq_eq_false_iff_ne.mp hgone
      have hframe := frameFits_placeScope hplace hgone
      have hline : Succeeds (viewCode (placeScope place) (.control f c)).result ↔
          Succeeds (controlLine (placeScope place) f c).result := by
        simp only [viewCode, hshown, if_false, Noted.result_bind, Noted.result_pure]
        exact succeeds_bind_ok
      rw [View.forall_shows_iff hgone, hline, controlLine_succeeds hc, fits_control_iff]
      simp only [View.children, List.getElem?_nil, reduceCtorEq, false_imp_iff, implies_true,
        and_true]
      exact and_congr_right fun _ => imp_congr_right fun _ => hframe

theorem viewCode_group_succeeds {f : Frame} {g : Group} {children : List View} {place : Place}
    (hplace : Placed (.group f g children) place)
    (hchildren : ∀ (i : Nat) (c : View), Placed c (.child (.group f g children) i) →
      (Succeeds (viewCode (childScope g children i) c).result ↔
        ∀ p w, c.Shows (.child (.group f g children) i) p w → w.Fits p)) :
    Succeeds (viewCode (placeScope place) (.group f g children)).result ↔
      ∀ p w, (View.group f g children).Shows place p w → w.Fits p := by
  cases hgone : (View.group f g children).isGone with
  | true => exact viewCode_succeeds_of_isGone hgone
  | false =>
      have hshown : f.visibility ≠ .gone := beq_eq_false_iff_ne.mp hgone
      have hblock : Succeeds (viewCode (placeScope place) (.group f g children)).result ↔
          Holds g children ∧ FrameFits (placeScope place) f ∧
            ∀ (i : Nat) (c : View), children[i]? = some c →
              Succeeds (viewCode (childScope g children i) c).result := by
        have hbody : Succeeds (viewsCode (childScope g children) 0 children).result ↔
            ∀ (i : Nat) (c : View), children[i]? = some c →
              Succeeds (viewCode (childScope g children i) c).result := by
          simp only [viewsCode_succeeds, Nat.zero_add]
        rw [← chain_succeeds, ← hbody]
        constructor
        · rintro ⟨code, hcode⟩
          obtain ⟨hholds, modifiers, body, hmodifiers, hbody, -⟩ :=
            (viewCode_group_eq_ok_iff hshown).mp hcode
          exact ⟨hholds, ⟨modifiers, hmodifiers⟩, ⟨body, hbody⟩⟩
        · rintro ⟨hholds, ⟨modifiers, hmodifiers⟩, ⟨body, hbody⟩⟩
          exact ⟨_, (viewCode_group_eq_ok_iff hshown).mpr
            ⟨hholds, modifiers, body, hmodifiers, hbody, rfl⟩⟩
      rw [View.forall_shows_iff hgone, hblock, fits_group_iff, and_assoc]
      refine and_congr_right fun hholds => and_congr (frameFits_placeScope hplace hgone) ?_
      refine forall₃_congr fun i c hc => hchildren i c ⟨hc, hholds.distinct⟩

/-- The code of a view at a place can be written exactly if all that it shows fits. -/
theorem viewCode_succeeds {v : View} {place : Place} (hproper : v.Everywhere View.Proper)
    (hplace : Placed v place) :
    Succeeds (viewCode (placeScope place) v).result ↔ ∀ p w, v.Shows place p w → w.Fits p := by
  induction v generalizing place with
  | control f c => exact viewCode_control_succeeds hproper.2 hplace
  | group f g children ih =>
      refine viewCode_group_succeeds hplace fun i c hc => ?_
      have hmem : c ∈ children := List.mem_of_getElem? hc.1
      exact ih c hmem (View.everywhereAll_iff.mp hproper.2 c hmem) hc

end Compose

/-- A layout that has been read is written, at any depth, exactly if every view that it shows
fits into its place. -/
theorem Layout.compose_succeeds_iff_shown_fit {strict : Bool} {source : String} {layout : Layout}
    (h : (Layout.read strict source).result = .ok layout) (depth : Nat) :
    Succeeds (layout.compose depth).result ↔ ∀ p w, layout.Shows p w → w.Fits p := by
  have hcode : Succeeds (layout.compose depth).result ↔
      Succeeds (Compose.viewsCode (fun _ => .top) 0 layout.roots).result := by
    simp only [Layout.compose, Noted.result_bind, Noted.result_pure]
    exact succeeds_bind_ok
  have hproper := View.everywhereAll_iff.mp (Layout.proper_of_read h)
  have hplaced (root : View) : Compose.Placed root .root := trivial
  rw [hcode, Compose.viewsCode_succeeds]
  constructor
  · rintro hroots p w ⟨root, hroot, hw⟩
    obtain ⟨i, hi⟩ := List.mem_iff_getElem?.mp hroot
    have hroot' := Compose.viewCode_succeeds (hproper root hroot) (hplaced root)
    exact hroot'.mp (hroots i root hi) p w hw
  · intro hfits i root hi
    have hroot : root ∈ layout.roots := List.mem_of_getElem? hi
    exact (Compose.viewCode_succeeds (hproper root hroot) (hplaced root)).mpr fun p w hw =>
      hfits p w ⟨root, hroot, hw⟩

theorem Layout.compose_succeeds_iff_shown_fit_tied_siblings : ∃ layout,
    (Layout.read true ("<ConstraintLayout>" ++
      "<View android:id=\"@+id/a\" app:layout_constraintTop_toBottomOf=\"@id/b\"/>" ++
      "<View android:id=\"@+id/b\"/></ConstraintLayout>")).result = .ok layout ∧
      ∀ p w, layout.Shows p w → w.Fits p := by
  obtain ⟨layout, hread, hcompose⟩ : ∃ layout,
      (Layout.read true ("<ConstraintLayout>" ++
        "<View android:id=\"@+id/a\" app:layout_constraintTop_toBottomOf=\"@id/b\"/>" ++
        "<View android:id=\"@+id/b\"/></ConstraintLayout>")).result = .ok layout ∧
        Succeeds (layout.compose 0).result := by
    decide +kernel
  exact ⟨layout, hread, (Layout.compose_succeeds_iff_shown_fit hread 0).mp hcompose⟩

end LayoutCompose
