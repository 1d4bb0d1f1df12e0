import LayoutCompose.Proofs.LineText
import LayoutCompose.Proofs.Page
import Mathlib.Data.List.Forall2

/-!
The code of a layout on the page.

The lines of the page follow the views that are shown. A control has one line; a group has a
line that opens its block, the references it declares and the lines of its children one level
deeper, and a line that closes it. No line reaches over its end, whatever texts and names the
document holds, and all that is opened on the page is closed on it.
-/

namespace LayoutCompose

open Compose (Scope viewCode viewsCode)
open Kotlin (Begins Code IsLine)

/-! ### Parts -/

/-- What a line of code stands for. -/
inductive Part
  | control (frame : Frame) (control : Control)
  | opening (frame : Frame) (group : Group)
  | reference (name : String)
  | closing

/-- How a part reads: a control is written as one line in some scope, and the line that opens a
group is its call with a brace. -/
def Part.Reads : Part → String → Prop
  | control f c, text => ∃ scope, (Compose.controlLine scope f c).result = .ok text
  | opening f g, text => ∃ scope modifiers,
      (Compose.chain scope g.kind f (Compose.groupExtras g)).result = .ok modifiers ∧
        text = (Compose.groupCall modifiers g).header ++ " \x7b"
  | reference name, text => text = "val " ++ name ++ " = createRef()"
  | closing, text => text = "\x7d"

mutual

/-- The parts of a view in order, each with its depth. A view that is gone has none. -/
def View.parts (depth : Nat) : View → List (Nat × Part)
  | control f c => if f.visibility = .gone then [] else [(depth, .control f c)]
  | group f g vs =>
      if f.visibility = .gone then []
      else
        (depth, .opening f g) ::
            ((Compose.groupReferences vs g).map fun name => (depth + 1, .reference name)) ++
          View.partsAll (depth + 1) vs ++ [(depth, .closing)]

def View.partsAll (depth : Nat) : List View → List (Nat × Part)
  | [] => []
  | v :: vs => v.parts depth ++ View.partsAll depth vs

end

theorem View.parts_of_isGone {depth : Nat} {v : View} (h : v.isGone = true) :
    v.parts depth = [] := by
  cases v with
  | control f c => exact if_pos (beq_iff_eq.mp h)
  | group f g vs => exact if_pos (beq_iff_eq.mp h)

/-- A line of code at its depth is the line for a part, where the outermost parts stand at depth
`base`. -/
def Part.Matches (base : Nat) (part : Nat × Part) (line : Nat × String) : Prop :=
  line.1 = base + part.1 ∧ part.2.Reads line.2

/-- The lines of views in order, given that each view has its own. -/
theorem viewsCode_matches (base depth : Nat) {scope : Nat → Scope} {i : Nat} {vs : List View}
    {code : List Code}
    (hvs : ∀ v ∈ vs, ∀ scope code, (viewCode scope v).result = .ok code →
      List.Forall₂ (Part.Matches base) (v.parts depth) (Code.linesAll (base + depth) code))
    (h : (viewsCode scope i vs).result = .ok code) :
    List.Forall₂ (Part.Matches base) (View.partsAll depth vs)
      (Code.linesAll (base + depth) code) := by
  induction vs generalizing i code with
  | nil =>
      obtain rfl := Except.ok.inj h
      exact .nil
  | cons v vs ih =>
      rw [List.forall_mem_cons] at hvs
      obtain ⟨first, rest, hfirst, hrest, rfl⟩ := Compose.viewsCode_cons_eq_ok_iff.mp h
      rw [View.partsAll, Code.linesAll_append]
      exact List.rel_append (hvs.1 _ _ hfirst) (ih hvs.2 hrest)

theorem declarations_match (base depth : Nat) (names : List String) :
    List.Forall₂ (Part.Matches base) (names.map fun name => (depth, .reference name))
      (Code.linesAll (base + depth) (names.map fun name => .line (Compose.declaration name))) := by
  induction names with
  | nil => exact .nil
  | cons name names ih => exact .cons ⟨rfl, rfl⟩ ih

theorem viewCode_matches_of_isGone (base depth : Nat) {scope : Scope} {v : View}
    {code : List Code} (hgone : v.isGone = true) (h : (viewCode scope v).result = .ok code) :
    List.Forall₂ (Part.Matches base) (v.parts depth) (Code.linesAll (base + depth) code) := by
  obtain rfl := Compose.eq_nil_of_isGone hgone h
  rw [View.parts_of_isGone hgone]
  exact .nil

/-- The lines of the code of a view are those of its parts, in order and at their depths. -/
theorem viewCode_matches (base depth : Nat) {scope : Scope} {v : View} {code : List Code}
    (h : (viewCode scope v).result = .ok code) :
    List.Forall₂ (Part.Matches base) (v.parts depth) (Code.linesAll (base + depth) code) := by
  induction v generalizing depth scope code with
  | control f c =>
      by_cases hgone : f.visibility = .gone
      · exact viewCode_matches_of_isGone base depth (beq_iff_eq.mpr hgone) h
      · obtain ⟨text, htext, rfl⟩ := (Compose.viewCode_control_eq_ok_iff hgone).mp h
        rw [View.parts, if_neg hgone]
        exact .cons ⟨rfl, scope, htext⟩ .nil
  | group f g vs ih =>
      by_cases hgone : f.visibility = .gone
      · exact viewCode_matches_of_isGone base depth (beq_iff_eq.mpr hgone) h
      · obtain ⟨-, modifiers, body, hmodifiers, hbody, rfl⟩ :=
          (Compose.viewCode_group_eq_ok_iff hgone).mp h
        have hdeclared := declarations_match base (depth + 1) (Compose.groupReferences vs g)
        have hchildren := viewsCode_matches base (depth + 1)
          (fun v hv scope code => ih v hv (depth + 1)) hbody
        rw [View.parts, if_neg hgone, Code.linesAll, Code.lines, Code.linesAll, List.append_nil,
          Nat.add_assoc, Code.linesAll_append]
        refine List.rel_append (.cons ⟨rfl, scope, modifiers, hmodifiers, rfl⟩ ?_)
          (.cons ⟨rfl, rfl⟩ .nil)
        exact List.rel_append hdeclared hchildren

/-! ### Lines -/

theorem viewsCode_allSound {scope : Nat → Scope} {i : Nat} {vs : List View} {code : List Code}
    (hscope : ∀ i, (scope i).Sound)
    (hvs : ∀ v ∈ vs, ∀ scope code, scope.Sound → (viewCode scope v).result = .ok code →
      Code.AllSound code)
    (h : (viewsCode scope i vs).result = .ok code) : Code.AllSound code := by
  induction vs generalizing i code with
  | nil =>
      obtain rfl := Except.ok.inj h
      trivial
  | cons v vs ih =>
      rw [List.forall_mem_cons] at hvs
      obtain ⟨first, rest, hfirst, hrest, rfl⟩ := Compose.viewsCode_cons_eq_ok_iff.mp h
      rw [Code.allSound_append]
      exact ⟨hvs.1 _ _ (hscope i) hfirst, ih hvs.2 hrest⟩

/-- The code of a view with values that a document can give is sound. -/
theorem viewCode_allSound {scope : Scope} {v : View} {code : List Code}
    (hproper : v.Everywhere View.Proper) (hscope : scope.Sound)
    (h : (viewCode scope v).result = .ok code) : Code.AllSound code := by
  induction v generalizing scope code with
  | control f c =>
      by_cases hgone : f.visibility = .gone
      · obtain rfl := Compose.eq_nil_of_isGone (v := .control f c) (beq_iff_eq.mpr hgone) h
        trivial
      · obtain ⟨text, htext, rfl⟩ := (Compose.viewCode_control_eq_ok_iff hgone).mp h
        exact ⟨Compose.controlLine_isLine hscope hproper.1 hproper.2 htext, trivial⟩
  | group f g vs ih =>
      by_cases hgone : f.visibility = .gone
      · obtain rfl := Compose.eq_nil_of_isGone (v := .group f g vs) (beq_iff_eq.mpr hgone) h
        trivial
      · obtain ⟨-, modifiers, body, hmodifiers, hbody, rfl⟩ :=
          (Compose.viewCode_group_eq_ok_iff hgone).mp h
        have hchildren := View.everywhereAll_iff.mp hproper.2
        have hids : ∀ v ∈ vs, ∀ id ∈ v.id, Text.isName id.toList = true := fun v hv =>
          (hchildren v hv).self.frame.id
        have hchain : modifiers.Sound :=
          Compose.chain_sound hscope hproper.1.1 (Compose.groupExtras_neutral g) hmodifiers
        have hdeclared := Code.allSound_lines (Compose.declarations_isLine (g := g) hids)
        have hbody : Code.AllSound body := viewsCode_allSound (Compose.childScope_sound hids)
          (fun v hv scope code => ih v hv (hchildren v hv)) hbody
        rw [List.map_map] at hdeclared
        exact ⟨⟨(Compose.groupCall_sound hchain hproper.1.2).header,
          Code.allSound_append.mpr ⟨hdeclared, hbody⟩⟩, trivial⟩

theorem Layout.compose_eq_ok_iff {layout : Layout} {depth : Nat} {text : String} :
    (layout.compose depth).result = .ok text ↔ ∃ code,
      (viewsCode (fun _ => .top) 0 layout.roots).result = .ok code ∧
        (Code.writeAll { depth } code).text = text := by
  simp only [Layout.compose, Noted.result_bind, Outcome.Except_bind_eq_ok, Noted.result_pure,
    Except.ok.injEq]

/-- The code of a layout that has been read is sound. -/
theorem Layout.allSound_of_read {strict : Bool} {source : String} {layout : Layout}
    {code : List Code} (h : (Layout.read strict source).result = .ok layout)
    (hcode : (viewsCode (fun _ => .top) 0 layout.roots).result = .ok code) :
    Code.AllSound code := by
  have hroots := View.everywhereAll_iff.mp (Layout.proper_of_read h)
  have htop : ∀ _ : Nat, Scope.top.Sound := fun _ => trivial
  exact viewsCode_allSound htop
    (fun v hv scope code => viewCode_allSound (hroots v hv)) hcode

/-- What stands on the page for a part: the space for its depth, and a text that begins behind
it and ends with the line. -/
def Part.IsWritten (base : Nat) (part : Nat × Part) (line : String) : Prop :=
  ∃ text, line = String.ofList (List.replicate (4 * (base + part.1)) ' ') ++ text ++ "\n" ∧
    '\n' ∉ text.toList ∧ Begins text ∧ part.2.Reads text

/-- The page of a layout that has been read holds one line for each part of the views that are
shown, in the order of the document and at the depth of the part; and the code of any view
leaves the page at the depth at which it found it. -/
theorem Layout.compose_lines_follow_parts {strict : Bool} {source text : String}
    {layout : Layout} {depth : Nat} (h : (Layout.read strict source).result = .ok layout)
    (hcompose : (layout.compose depth).result = .ok text) :
    (∃ lines, List.Forall₂ (Part.IsWritten depth) (View.partsAll 0 layout.roots) lines ∧
      text = String.join lines) ∧
      ∀ scope v code page, (viewCode scope v).result = .ok code →
        (Code.writeAll page code).depth = page.depth := by
  obtain ⟨code, hcode, rfl⟩ := Layout.compose_eq_ok_iff.mp hcompose
  have hmatch := viewsCode_matches depth 0 (fun v _ scope code => viewCode_matches depth 0) hcode
  have hsound := Code.linesAll_of_sound depth code (Layout.allSound_of_read h hcode)
  constructor
  · refine ⟨(Code.linesAll depth code).map Kotlin.lineText, ?_, ?_⟩
    · rw [List.forall₂_map_right_iff, List.forall₂_iff_zip]
      refine ⟨hmatch.length_eq, fun {part line} hpair => ?_⟩
      obtain ⟨hdepth, hreads⟩ := List.forall₂_zip hmatch hpair
      obtain ⟨hline, hbegins⟩ := hsound line (List.of_mem_zip hpair).2
      exact ⟨line.2, by rw [Kotlin.lineText, hdepth, Kotlin.indentation], hline, hbegins, hreads⟩
    · rw [Code.writeAll_eq]
      exact String.empty_append
  · intro scope v code page _
    rw [Code.writeAll_eq]
    rfl

theorem Layout.compose_lines_follow_parts_nested : ∃ layout,
    (Layout.read true ("<FrameLayout><TextView android:text=\"a&#10;b\"/>" ++
      "<View android:visibility=\"gone\"/><ConstraintLayout><View android:id=\"@+id/x\"/>" ++
      "</ConstraintLayout></FrameLayout>")).result = .ok layout ∧
      ∃ lines, List.Forall₂ (Part.IsWritten 1) (View.partsAll 0 layout.roots) lines ∧
        "    Box \x7b\n        Text(text = \"a\\nb\")\n        ConstraintLayout \x7b\n" ++
          "            val x = createRef()\n" ++
          "            Spacer(modifier = Modifier.constrainAs(x) \x7b\x7d)\n" ++
          "        \x7d\n    \x7d\n" = String.join lines := by
  obtain ⟨layout, hread, text, hcompose, rfl⟩ : ∃ layout,
      (Layout.read true ("<FrameLayout><TextView android:text=\"a&#10;b\"/>" ++
        "<View android:visibility=\"gone\"/><ConstraintLayout><View android:id=\"@+id/x\"/>" ++
        "</ConstraintLayout></FrameLayout>")).result = .ok layout ∧
        ∃ text, (layout.compose 1).result = .ok text ∧
          "    Box \x7b\n        Text(text = \"a\\nb\")\n        ConstraintLayout \x7b\n" ++
            "            val x = createRef()\n" ++
            "            Spacer(modifier = Modifier.constrainAs(x) \x7b\x7d)\n" ++
            "        \x7d\n    \x7d\n" = text := by
    decide +kernel
  exact ⟨layout, hread, (Layout.compose_lines_follow_parts hread hcompose).1⟩

/-- The page of a layout that has been read is well-formed code. -/
theorem Layout.compose_isWellFormed {strict : Bool} {source text : String} {layout : Layout}
    {depth : Nat} (h : (Layout.read strict source).result = .ok layout)
    (hcompose : (layout.compose depth).result = .ok text) : Kotlin.IsWellFormed text := by
  obtain ⟨code, hcode, rfl⟩ := Layout.compose_eq_ok_iff.mp hcompose
  have hblank : ({ depth } : Kotlin.Page).Scanned [] := rfl
  exact Code.scanned_writeAll hblank (by simp) code (Layout.allSound_of_read h hcode)

theorem Layout.compose_isWellFormed_quoted : ∃ layout,
    (Layout.read false ("<ConstraintLayout><Button android:id=\"@+id/when\" " ++
      "android:text=\"&quot;$\x7b)\\\"/></ConstraintLayout>")).result = .ok layout ∧
      ∃ text, (layout.compose 0).result = .ok text ∧ Kotlin.IsWellFormed text := by
  obtain ⟨layout, hread, text, hcompose⟩ : ∃ layout,
      (Layout.read false ("<ConstraintLayout><Button android:id=\"@+id/when\" " ++
        "android:text=\"&quot;$\x7b)\\\"/></ConstraintLayout>")).result = .ok layout ∧
        Outcome.Succeeds (layout.compose 0).result := by
    decide +kernel
  exact ⟨layout, hread, text, hcompose, Layout.compose_isWellFormed hread hcompose⟩

end LayoutCompose
