import LayoutCompose.Proofs.Fitness
import LayoutCompose.Proofs.Rounding

/-!
Views that have been read are well typed.

That values have passed their grammars is one part of it. The others are about what is made of
the values: a percentage becomes a number between zero and one, ties are listed in the order of
the table and none twice, an inclusion has only a name and a visibility, and no view has children
unless its kind is that of a group.
-/

namespace LayoutCompose

/-! ### Values -/

def Extent.Bounded : Extent → Prop
  | fraction part => part.IsPart
  | _ => True

theorem Extent.bounded_of_ofPercentage? {cs : List Char} {e : Extent}
    (h : ofPercentage? cs = some e) : e.Bounded := by
  have hfinite : (Single.ofNat 100).isFinite = true := by decide +kernel
  have hpos : 0 < (Single.ofNat 100).units := by decide +kernel
  unfold ofPercentage? at h
  split at h
  · rename_i x hread
    dsimp only at h
    split at h
    · rename_i hrange
      obtain ⟨hnonneg, hle⟩ := Bool.and_eq_true_iff.mp hrange
      obtain rfl := Option.some.inj h
      exact Single.isPart_div (Single.isFinite_of_read hread) hfinite hnonneg hle hpos
    · cases h
  · cases h

theorem Extent.bounded_of_read? {s : String} {e : Extent} (h : read? s = some e) :
    e.Bounded := by
  unfold read? at h
  dsimp only at h
  split at h
  · obtain rfl := Option.some.inj h
    trivial
  · obtain rfl := Option.some.inj h
    trivial
  · obtain rfl := Option.some.inj h
    trivial
  · split at h
    · exact bounded_of_ofPercentage? h
    · obtain ⟨d, -, rfl⟩ := Option.map_eq_some_iff.mp h
      trivial

theorem Extent.bounded_of_read {s : String} {e : Extent} (h : Extent.read s = .ok e) :
    e.Bounded := by
  unfold Extent.read at h
  split at h
  · rename_i hread
    obtain rfl := Except.ok.inj h
    exact bounded_of_read? hread
  · cases h

theorem Span.Proper.lower_le_upper {r : Span} (h : r.Proper) : r.lower.le r.upper = true :=
  (Single.lt_eq_false_iff h.upper h.lower).mp h.ordered

/-- The lines that a tie joins. -/
def Constraint.anchors (c : Constraint) : Anchor × Anchor :=
  (c.anchor, c.targetAnchor)

/-- Ties in the order of the table, with each pair of lines at most once. -/
structure Constraint.Listed (cs : List Constraint) : Prop where
  ordered : (cs.map anchors).Sublist (Constraint.attributes.map Prod.snd)
  nodup : (cs.map anchors).Nodup

theorem Constraint.listed_of_sublist {cs : List Constraint}
    (h : (cs.map anchors).Sublist (Constraint.attributes.map Prod.snd)) : Listed cs := by
  have htable : (Constraint.attributes.map Prod.snd).Nodup := by decide
  exact ⟨h, htable.sublist h⟩

/-! ### Views -/

/-- What holds of a view in a layout that has been read; nothing is said of its children but
whether it has any. -/
structure View.WellTyped (v : View) : Prop where
  /-- Numbers are finite, and those that must not be negative are not; names and references are
  proper, and references are of the kinds that their places ask for. -/
  proper : v.Proper
  sizes : v.frame.width.Bounded ∧ v.frame.height.Bounded
  values : ∀ f t r, v = .control f (.rangeSlider t (some r)) → r.lower.le r.upper = true
  ties : Constraint.Listed v.frame.constraints
  inclusion : v.kind = .inclusion →
    v.frame = { id := v.frame.id, visibility := v.frame.visibility }
  leaf : v.kind.isGroup = false → v.children = []

@[simp] theorem View.frame_withChildren (v : View) (vs : List View) :
    (v.withChildren vs).frame = v.frame := by
  cases v <;> rfl

@[simp] theorem View.kind_withChildren (v : View) (vs : List View) :
    (v.withChildren vs).kind = v.kind := by
  cases v <;> rfl

theorem View.proper_withChildren {v : View} (h : v.Proper) (vs : List View) :
    (v.withChildren vs).Proper := by
  cases v with
  | control f c => exact h
  | group f g us => exact h

theorem View.children_eq_nil_of_kind {v : View} (h : v.kind.isGroup = false) :
    v.children = [] := by
  cases v with
  | control f c => rfl
  | group f g vs => simp at h

namespace Document.Attributes

variable {attrs : Attributes}

/-- The ties of a view are those of the table for which there is an attribute. -/
theorem sublist_of_constraintsFrom {table : List (String × Anchor × Anchor)}
    {cs : List Constraint} (h : attrs.constraintsFrom table = .ok cs) :
    (cs.map Constraint.anchors).Sublist (table.map Prod.snd) := by
  induction table generalizing cs with
  | nil =>
      obtain rfl := Except.ok.inj h
      exact .slnil
  | cons row table ih =>
      obtain ⟨name, anchor, targetAnchor⟩ := row
      simp only [constraintsFrom, Outcome.bind_eq_ok] at h
      obtain ⟨target, -, rest, hrest, h⟩ := h
      cases target with
      | none =>
          rw [Outcome.pure_eq_ok] at h
          subst h
          exact (ih hrest).cons _
      | some target =>
          rw [Outcome.pure_eq_ok] at h
          subst h
          exact (ih hrest).cons_cons _

/-- The frame of a view is the one that is made for its kind. -/
theorem frameOf_of_view {kind : Kind} {v : View} (h : attrs.view kind = .ok v) :
    attrs.frameOf kind = .ok v.frame := by
  rw [view, Outcome.bind_eq_ok] at h
  obtain ⟨f, hframe, h⟩ := h
  have hf : f = v.frame := by
    cases kind <;> simp only [Outcome.bind_eq_ok, Outcome.pure_eq_ok] at h
    all_goals
      grind [View.frame]
  exact hf ▸ hframe

theorem inclusionFrame_eq {f : Frame} (h : attrs.inclusionFrame = .ok f) :
    f = { id := f.id, visibility := f.visibility } := by
  simp only [inclusionFrame, Outcome.bind_eq_ok, Outcome.pure_eq_ok] at h
  obtain ⟨id, -, visibility, -, rfl⟩ := h
  rfl

theorem bounded_of_frame {f : Frame} (h : attrs.frame = .ok f) :
    f.width.Bounded ∧ f.height.Bounded ∧ Constraint.Listed f.constraints := by
  simp only [frame, Outcome.bind_eq_ok, Outcome.pure_eq_ok] at h
  obtain ⟨constraints, hconstraints, id, -, width, hwidth, height, hheight, padding, -, margin, -,
    background, -, visibility, -, enabled, -, alpha, -, weight, -, gravity, -, description, -,
    rfl⟩ := h
  exact ⟨of_getD (fun _ _ => Extent.bounded_of_read) hwidth trivial,
    of_getD (fun _ _ => Extent.bounded_of_read) hheight trivial,
    Constraint.listed_of_sublist (sublist_of_constraintsFrom hconstraints)⟩

theorem bounded_of_frameOf {kind : Kind} {f : Frame} (h : attrs.frameOf kind = .ok f) :
    f.width.Bounded ∧ f.height.Bounded ∧ Constraint.Listed f.constraints := by
  unfold frameOf at h
  split at h
  · rw [inclusionFrame_eq h]
    exact ⟨trivial, trivial, Constraint.listed_of_sublist (List.nil_sublist _)⟩
  · exact bounded_of_frame h

/-- Attributes make only well-typed views, whatever children these are given. -/
theorem wellTyped_of_view {kind : Kind} {v : View} (h : attrs.view kind = .ok v)
    (vs : List View) : (v.withChildren vs).WellTyped := by
  have hproper := View.proper_withChildren (of_view h) vs
  have hframe := frameOf_of_view h
  obtain ⟨hwidth, hheight, hties⟩ := bounded_of_frameOf hframe
  refine {
    proper := hproper
    sizes := ?_
    values := ?_
    ties := ?_
    inclusion := ?_
    leaf := View.children_eq_nil_of_kind }
  · rw [View.frame_withChildren]
    exact ⟨hwidth, hheight⟩
  · intro f t r hv
    rw [hv] at hproper
    exact (hproper.2.2 r rfl).lower_le_upper
  · rw [View.frame_withChildren]
    exact hties
  · rw [View.kind_withChildren, View.frame_withChildren, (kind_of_view h).1]
    rintro rfl
    exact inclusionFrame_eq hframe

end Document.Attributes

/-- Every view of a layout that has been read is well typed, strictly or not. -/
theorem Layout.read_wellTyped {strict : Bool} {source : String} {layout : Layout}
    (h : (Layout.read strict source).result = .ok layout) :
    View.EverywhereAll View.WellTyped layout.roots :=
  Layout.everywhere_of_read (fun _ _ _ vs hview => Document.Attributes.wellTyped_of_view hview vs) h

theorem Layout.read_wellTyped_mixed : ∃ layout,
    (Layout.read true ("<ConstraintLayout>" ++
      "<include android:id=\"@+id/top\" layout=\"@layout/top\"/>" ++
      "<RangeSlider android:layout_width=\"33%\" app:values=\"0.25..0.5\" " ++
      "app:layout_constraintBottom_toBottomOf=\"parent\" " ++
      "app:layout_constraintTop_toBottomOf=\"@id/top\"/></ConstraintLayout>")).result =
        .ok layout ∧ View.EverywhereAll View.WellTyped layout.roots := by
  obtain ⟨layout, hread⟩ : Outcome.Succeeds
      (Layout.read true ("<ConstraintLayout>" ++
        "<include android:id=\"@+id/top\" layout=\"@layout/top\"/>" ++
        "<RangeSlider android:layout_width=\"33%\" app:values=\"0.25..0.5\" " ++
        "app:layout_constraintBottom_toBottomOf=\"parent\" " ++
        "app:layout_constraintTop_toBottomOf=\"@id/top\"/></ConstraintLayout>")).result := by
    decide +kernel
  exact ⟨layout, hread, Layout.read_wellTyped hread⟩

end LayoutCompose
