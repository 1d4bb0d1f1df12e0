import LayoutCompose.Proofs.Attachment

/-!
Names that references hide.

A constraint group declares its references as local names in front of its children. The block
that ties a child uses names of its own: the parent, the anchors, and the properties for a side
that fills its room. A reference that is spelled like one of them hides it. No reference is
spelled like the parent and no numbered one like any of these names, but the identifier of a child
may spell an anchor or a property, and nothing keeps it from being taken as a reference.
-/

namespace LayoutCompose

@[simp] theorem Kotlin.Code.linesAll_map_line (depth : Nat) (write : String → String)
    (names : List String) :
    Code.linesAll depth (names.map fun name => .line (write name)) =
      names.map fun name => (depth, write name) := by
  induction names with
  | nil => rfl
  | cons name names ih => rw [List.map_cons, Code.linesAll, ih, Code.lines]; rfl

namespace Compose

/-! ### Blocks of ties -/

/-- A statement in the block of a tie: an anchor is linked to an anchor of the target, or a side
fills the room between its ties. -/
inductive Statement
  | link (anchor : Anchor) (target : String) (targetAnchor : Anchor)
  | fill (property : String)

namespace Statement

def text : Statement → String
  | link anchor target targetAnchor =>
      anchorName anchor ++ ".linkTo(" ++ target ++ "." ++ anchorName targetAnchor ++ ")"
  | fill property => property ++ " = Dimension.fillToConstraints"

def names : Statement → List String
  | link anchor target _ => [anchorName anchor, target]
  | fill property => [property, "Dimension"]

end Statement

def blockText (statements : List Statement) : String :=
  if statements.isEmpty then "\x7b\x7d"
  else "\x7b " ++ "; ".intercalate (statements.map Statement.text) ++ " \x7d"

/-- The names that the block of a tie uses for what is not a reference. -/
def reservedNames : List String :=
  ["parent", "width", "height"] ++
    [Anchor.top, .bottom, .leading, .trailing, .left, .right, .baseline].map anchorName

theorem anchorName_mem_reservedNames (anchor : Anchor) : anchorName anchor ∈ reservedNames := by
  cases anchor <;> decide

/-- The ties of a view are written as links to their targets. -/
theorem tieTexts_eq_ok {ids : List (String × Option String)} {own : Option String}
    {ties : List Constraint} {texts : List String} (h : tieTexts ids own ties = .ok texts) :
    ∃ statements : List Statement, texts = statements.map Statement.text ∧
      ∀ s ∈ statements, ∃ tie target, tieTarget ids own tie = .ok target ∧
        s = .link tie.anchor target tie.targetAnchor := by
  induction ties generalizing texts with
  | nil =>
      obtain rfl := Except.ok.inj h
      exact ⟨[], rfl, by simp⟩
  | cons tie ties ih =>
      simp only [tieTexts, tieText, Outcome.bind_eq_ok, Outcome.pure_eq_ok] at h
      obtain ⟨_, ⟨target, htarget, rfl⟩, texts, htexts, rfl⟩ := h
      obtain ⟨statements, rfl, hstatements⟩ := ih htexts
      refine ⟨.link tie.anchor target tie.targetAnchor :: statements, rfl, ?_⟩
      rw [List.forall_mem_cons]
      exact ⟨⟨tie, target, htarget, rfl⟩, hstatements⟩

/-- The block that ties a view is made of links and of the sides that fill their room. -/
theorem constrainCall_eq_ok {ids : List (String × Option String)} {name call : String}
    {f : Frame} (h : constrainCall ids name f = .ok call) :
    ∃ statements : List Statement, call = "constrainAs(" ++ name ++ ") " ++ blockText statements ∧
      ∀ s ∈ statements, s = .fill "width" ∨ s = .fill "height" ∨
        ∃ tie target, tieTarget ids f.id tie = .ok target ∧
          s = .link tie.anchor target tie.targetAnchor := by
  simp only [constrainCall, Outcome.bind_eq_ok, Outcome.pure_eq_ok] at h
  obtain ⟨texts, htexts, rfl⟩ := h
  obtain ⟨links, rfl, hlinks⟩ := tieTexts_eq_ok htexts
  refine ⟨links ++ (if f.width.isZero then [.fill "width"] else []) ++
    (if f.height.isZero then [.fill "height"] else []), ?_, ?_⟩
  · cases hwidth : f.width.isZero <;> cases hheight : f.height.isZero <;>
      simp [blockText, Statement.text]
  · intro s hs
    simp only [List.mem_append] at hs
    rcases hs with (hs | hs) | hs
    · exact .inr (.inr (hlinks s hs))
    · split at hs
      · exact .inl (List.mem_singleton.mp hs)
      · cases hs
    · split at hs
      · exact .inr (.inl (List.mem_singleton.mp hs))
      · cases hs

/-! ### References -/

namespace References

/-- A name made from an identifier is kept when the numbered ones are added. -/
theorem some_mem_complete {n : Nat} {taken : List String} {pairs : List (View × Option String)}
    {name : String} (h : some name ∈ pairs.map Prod.snd) : some name ∈ complete n taken pairs := by
  induction pairs generalizing n taken with
  | nil => cases h
  | cons pair pairs ih =>
      obtain ⟨v, own⟩ := pair
      rw [List.map_cons, List.mem_cons] at h
      cases own with
      | some spelled =>
          rw [complete, List.mem_cons]
          exact h.imp_right ih
      | none =>
          have hlater := h.resolve_left (by simp)
          rw [complete]
          split
          · exact List.mem_cons_of_mem _ (ih hlater)
          · exact List.mem_cons_of_mem _ (ih hlater)

theorem mem_declared_of_spelledName {children : List View} {v : View} {name : String}
    (hv : v ∈ children) (h : spelledName v = some name) : name ∈ (given children).declared := by
  refine mem_declared.mpr (some_mem_complete ?_)
  rw [List.map_map]
  exact List.mem_map.mpr ⟨v, hv, h⟩

theorem spelledName_eq_some_iff {v : View} {name : String} :
    spelledName v = some name ↔ v.isGone = false ∧ Kotlin.isVariableName name = true ∧
      ∃ id ∈ v.id, Kotlin.variableName id = name := by
  unfold spelledName
  cases hgone : v.isGone with
  | true => simp
  | false =>
      rw [if_neg Bool.false_ne_true, Option.filter_eq_some_iff, Option.map_eq_some_iff]
      simp [and_comm]

/-- Which of the names that the blocks of a group use its references hide. -/
structure HideOnlySpelled (children : List View) (refs : References) : Prop where
  /-- The block of a child uses the reserved names, the references and the type of lengths. -/
  blocks : ∀ (i : Nat) v name call, children[i]? = some v → refs.nameAt i = some name →
    constrainCall refs.ids name v.frame = .ok call → ∃ statements : List Statement,
      call = "constrainAs(" ++ name ++ ") " ++ blockText statements ∧
        ∀ s ∈ statements, ∀ used ∈ s.names,
          used ∈ reservedNames ∨ used ∈ refs.declared ∨ used = "Dimension"
  /-- A reserved name is hidden exactly if the identifier of a child that is shown spells it. The
  parent is never hidden. -/
  hidden : ∀ name ∈ reservedNames, (name ∈ refs.declared ↔
    name ≠ "parent" ∧ ∃ v ∈ children, v.isGone = false ∧ ∃ id ∈ v.id, Kotlin.variableName id = name)

theorem hidden_given {children : List View} {name : String} (h : Distinct children)
    (hname : name ∈ reservedNames) : name ∈ (given children).declared ↔ name ≠ "parent" ∧
      ∃ v ∈ children, v.isGone = false ∧ ∃ id ∈ v.id, Kotlin.variableName id = name := by
  have hvariable : reservedNames.all Kotlin.isVariableName = true := by decide
  constructor
  · intro hdeclared
    refine ⟨fun hparent => parent_not_mem_declared_given h (hparent ▸ hdeclared), ?_⟩
    rcases mem_declared_given hdeclared with hspelled | ⟨k, rfl⟩
    · obtain ⟨v, hv, hname⟩ := List.mem_filterMap.mp hspelled
      obtain ⟨hgone, -, hid⟩ := spelledName_eq_some_iff.mp hname
      exact ⟨v, hv, hgone, hid⟩
    · exact absurd hname (numbered_not_mem_of_all (by decide) k)
  · rintro ⟨-, v, hv, hgone, hid⟩
    refine mem_declared_of_spelledName hv (spelledName_eq_some_iff.mpr ⟨hgone, ?_, hid⟩)
    exact List.all_eq_true.mp hvariable name hname

theorem hideOnlySpelled_given {children : List View} (h : Distinct children) :
    HideOnlySpelled children (given children) := by
  refine ⟨fun i v name call hv _ hcall => ?_, fun name hname => hidden_given h hname⟩
  obtain ⟨statements, hcall, hstatements⟩ := constrainCall_eq_ok hcall
  refine ⟨statements, hcall, fun s hs => ?_⟩
  rcases hstatements s hs with rfl | rfl | ⟨tie, target, htarget, rfl⟩
  · simp [Statement.names, reservedNames]
  · simp [Statement.names, reservedNames]
  · simp only [Statement.names, List.forall_mem_cons, List.not_mem_nil, false_implies,
      implies_true, and_true]
    refine ⟨.inl (anchorName_mem_reservedNames tie.anchor), ?_⟩
    rcases eq_name_of_tieTarget h hv htarget with ⟨-, rfl⟩ | ⟨_, j, _, _, _, _, _, hj⟩
    · exact .inl (by decide)
    · exact .inr (.inl (mem_declared.mpr (List.mem_of_getElem? hj)))

end References

end Compose

open Kotlin (Code)

/-- The references that a constraint group declares on a page hide a name which its blocks use
only where the identifier of a child spells that name, and never the parent. -/
theorem Layout.compose_hides_only_spelled {layout : Layout} {depth : Nat} {text : String}
    {p : Place} {f : Frame} {children : List View}
    (hcompose : (layout.compose depth).result = .ok text)
    (hshows : layout.Shows p (.group f .constraint children)) :
    ∃ refs lines level, (Compose.References.ofChildren children).result = .ok refs ∧
      text = String.join (lines.map Kotlin.lineText) ∧
      refs.declared.map (fun name => (level, "val " ++ name ++ " = createRef()")) <:+: lines ∧
      Compose.References.HideOnlySpelled children refs := by
  obtain ⟨all, hall, rfl⟩ := Layout.compose_eq_ok_iff.mp hcompose
  obtain ⟨code, level, hcode, hlines⟩ :=
    Compose.linesAll_infix_of_layout_shows depth hall hshows
  have hshown : f.visibility ≠ .gone := by
    obtain ⟨root, -, hroot⟩ := hshows
    exact beq_eq_false_iff_ne.mp hroot.shown_isGone
  obtain ⟨hholds, modifiers, body, -, -, rfl⟩ :=
    (Compose.viewCode_group_eq_ok_iff hshown).mp hcode
  have hdistinct := hholds.distinct rfl
  refine ⟨Compose.References.given children, Code.linesAll depth all, level + 1,
    Compose.References.ofChildren_eq_ok_iff.mpr ⟨hdistinct, rfl⟩, ?_, ?_,
    Compose.References.hideOnlySpelled_given hdistinct⟩
  · rw [Code.writeAll_eq]
    exact String.empty_append
  · refine List.IsInfix.trans ?_ hlines
    rw [Code.linesAll, Code.linesAll, List.append_nil, Code.lines, Code.linesAll_append,
      Code.linesAll_map_line, List.cons_append, ← List.singleton_append, List.append_assoc,
      ← List.append_assoc]
    exact ⟨_, _, rfl⟩

theorem Layout.compose_hides_only_spelled_top : ∃ text refs,
    (Layout.compose ⟨[.group {} .constraint [.control { id := some "top" } .plain,
      .control { constraints := [⟨.top, .parent, .top⟩] } .plain]]⟩ 0).result = .ok text ∧
    (Compose.References.ofChildren [.control { id := some "top" } .plain,
      .control { constraints := [⟨.top, .parent, .top⟩] } .plain]).result = .ok refs ∧
    Compose.References.HideOnlySpelled [.control { id := some "top" } .plain,
      .control { constraints := [⟨.top, .parent, .top⟩] } .plain] refs ∧
    "top" ∈ refs.declared ∧ "parent" ∉ refs.declared := by
  obtain ⟨text, hcompose⟩ : Outcome.Succeeds
      (Layout.compose ⟨[.group {} .constraint [.control { id := some "top" } .plain,
        .control { constraints := [⟨.top, .parent, .top⟩] } .plain]]⟩ 0).result := by
    decide +kernel
  obtain ⟨refs, -, -, hrefs, -, -, hhide⟩ :=
    Layout.compose_hides_only_spelled hcompose ⟨_, List.mem_cons_self, .self rfl⟩
  have hspelled : Kotlin.variableName "top" = "top" := by decide +kernel
  refine ⟨text, refs, hcompose, hrefs, hhide, (hhide.hidden "top" (by decide)).mpr ?_, ?_⟩
  · exact ⟨by decide, _, List.mem_cons_self, rfl, "top", rfl, hspelled⟩
  · intro hparent
    exact ((hhide.hidden "parent" (by decide)).mp hparent).1 rfl

/-- An identifier that spells an anchor is taken as a reference, and hides the anchor where a
sibling is tied by it. -/
theorem Layout.compose_hides_anchor : ∃ layout,
    (Layout.read false ("<ConstraintLayout><View android:id=\"@+id/top\"/>" ++
      "<View app:layout_constraintTop_toTopOf=\"parent\"/></ConstraintLayout>")).result =
        .ok layout ∧
      ∃ text, (layout.compose 0).result = .ok text ∧
        "ConstraintLayout \x7b\n    val top = createRef()\n    val ref0 = createRef()\n" ++
          "    Spacer(modifier = Modifier.constrainAs(top) \x7b\x7d)\n" ++
          "    Spacer(modifier = Modifier.constrainAs(ref0) \x7b top.linkTo(parent.top) \x7d)\n" ++
          "\x7d\n" = text := by
  decide +kernel

end LayoutCompose
