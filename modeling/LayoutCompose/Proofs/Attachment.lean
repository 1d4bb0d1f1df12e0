import LayoutCompose.Proofs.Fitness
import LayoutCompose.Proofs.ReferenceSpelling
import LayoutCompose.Proofs.WrittenCode

/-!
Where references are attached.

A reference that a constraint group declares belongs to one of its children. The line of that
child begins with a call, and the first of the modifiers of the call is the tie to the reference.
An inclusion makes the exception: it is a bare call without modifiers, so its reference is
declared and others may be tied to it, but nothing carries it.
-/

namespace LayoutCompose

open Kotlin (Call Chain Code)

/-! ### Modifiers of a call -/

namespace Kotlin

/-- The call takes a chain as its modifiers. -/
def Call.Takes (call : Call) (modifiers : Chain) : Prop :=
  ∀ text ∈ modifiers.text?, "modifier = " ++ text ∈ call.arguments

namespace Call.Takes

variable {call : Call} {modifiers : Chain}

theorem modified (call : Call) (modifiers : Chain) : (call.modified modifiers).Takes modifiers := by
  intro text htext
  rw [Option.mem_def] at htext
  rw [Call.modified, htext]
  exact List.mem_append_right _ List.mem_cons_self

theorem arg (h : call.Takes modifiers) (name value : String) :
    (call.arg name value).Takes modifiers := fun text htext =>
  List.mem_append_left _ (h text htext)

theorem argOf (h : call.Takes modifiers) (name : String) (value : Option String) :
    (call.argOf name value).Takes modifiers := by
  cases value with
  | none => exact h
  | some value => exact h.arg name value

theorem enabled (h : call.Takes modifiers) (enabled : Bool) :
    (call.enabled enabled).Takes modifiers := by
  cases enabled with
  | true => exact h
  | false => exact h.arg "enabled" "false"

/-- With modifiers, the call in front of a block has its parentheses. -/
theorem header_eq (h : call.Takes modifiers) (hcalls : modifiers.calls ≠ []) :
    call.header = call.text := by
  have htext : modifiers.text? =
      some (modifiers.calls.foldl (fun text call => text ++ "." ++ call) "Modifier") := by
    rw [Chain.text?, Chain.isEmpty, if_neg (by simpa using hcalls)]
  have harguments := List.ne_nil_of_mem (h _ htext)
  rw [Call.header, if_neg (by simpa using harguments)]

end Call.Takes

/-- The line begins with a call that takes a chain as its modifiers. -/
def LineTakes (line : String) (modifiers : Chain) : Prop :=
  ∃ (call : Call) (rest : String), call.Takes modifiers ∧ line = call.text ++ rest

theorem Call.Takes.line {call : Call} {modifiers : Chain} (h : call.Takes modifiers) :
    LineTakes call.text modifiers :=
  ⟨call, "", h, String.append_empty.symm⟩

theorem LineTakes.append {line : String} {modifiers : Chain} (h : LineTakes line modifiers)
    (more : String) : LineTakes (line ++ more) modifiers := by
  obtain ⟨call, rest, hcall, rfl⟩ := h
  exact ⟨call, rest ++ more, hcall, String.append_assoc⟩

/-- The line begins with a call whose modifiers begin with the tie to a reference. -/
def TiesTo (line name : String) : Prop :=
  ∃ (modifiers : Chain) (links : String) (others : List String), LineTakes line modifiers ∧
    modifiers.calls = ("constrainAs(" ++ name ++ ") " ++ links) :: others

def Code.opening : Code → String
  | .line text => text
  | .block header _ => header ++ " \x7b"

end Kotlin

open Kotlin (LineTakes TiesTo)

namespace Compose

/-- In the scope of a reference, the tie to it is the first modifier. -/
theorem chain_begins {ids : List (String × Option String)} {name : String} {kind : Kind}
    {f : Frame} {extras : List String} {modifiers : Chain}
    (h : (chain (.constraint ids (some name)) kind f extras).result = .ok modifiers) :
    ∃ links others, modifiers.calls = ("constrainAs(" ++ name ++ ") " ++ links) :: others := by
  obtain ⟨ties, hties, weight, -, margin, -, alpha, -, padding, -, rfl⟩ := chain_eq_ok_iff.mp h
  simp only [constrainCalls, constrainCall, Noted.result_bind, Outcome.Except_bind_eq_ok,
    Noted.result_of, Outcome.bind_eq_ok, Outcome.pure_eq_ok, Noted.result_pure,
    Except.ok.injEq] at hties
  obtain ⟨call, ⟨links, -, rfl⟩, rfl⟩ := hties
  simp only [List.append_assoc, List.singleton_append]
  exact ⟨_, _, rfl⟩

/-! ### Lines of views -/

section Lines

variable {scope : Scope} {f : Frame} {line : String}

theorem toggleLine_takes {form : ToggleForm} {label : Caption} {checked : Bool}
    (h : (toggleLine scope f form label checked).result = .ok line) : ∃ modifiers,
      (chain scope form.kind f []).result = .ok modifiers ∧ LineTakes line modifiers := by
  simp only [toggleLine, Noted.result_bind, Outcome.Except_bind_eq_ok] at h
  obtain ⟨modifiers, hmodifiers, h⟩ := h
  refine ⟨modifiers, hmodifiers, ?_⟩
  split at h
  · obtain rfl := Except.ok.inj h
    exact ((Call.Takes.modified _ modifiers).enabled _).line
  · obtain rfl := Except.ok.inj h
    have hrow := ((Call.Takes.modified { name := "Row" } modifiers).arg "verticalAlignment"
      "Alignment.CenterVertically").line
    exact hrow |>.append _ |>.append _ |>.append _ |>.append _ |>.append _

theorem sliderCall_takes {name value : String} {modifiers : Chain} {t : Track}
    {stops : Option Int} : (sliderCall name value modifiers f t stops).Takes modifiers :=
  (Call.Takes.modified _ modifiers).enabled _ |>.argOf _ _ |>.argOf _ _

theorem sliderLine_takes {t : Track} {value : Option Single}
    (h : (sliderLine scope f t value).result = .ok line) : ∃ modifiers,
      (chain scope .slider f []).result = .ok modifiers ∧ LineTakes line modifiers := by
  simp only [sliderLine, Noted.result_bind, Outcome.Except_bind_eq_ok] at h
  obtain ⟨stops, -, h⟩ := h
  split at h
  · cases h
  · simp only [Noted.result_bind, Outcome.Except_bind_eq_ok, Noted.result_pure,
      Except.ok.injEq] at h
    obtain ⟨modifiers, hmodifiers, rfl⟩ := h
    exact ⟨modifiers, hmodifiers, sliderCall_takes.line⟩

theorem rangeSliderLine_takes {t : Track} {values : Option Span}
    (h : (rangeSliderLine scope f t values).result = .ok line) : ∃ modifiers,
      (chain scope .rangeSlider f []).result = .ok modifiers ∧ LineTakes line modifiers := by
  simp only [rangeSliderLine, Noted.result_bind, Outcome.Except_bind_eq_ok] at h
  obtain ⟨stops, -, h⟩ := h
  split at h
  · cases h
  · simp only [Noted.result_bind, Outcome.Except_bind_eq_ok, Noted.result_pure,
      Except.ok.injEq] at h
    obtain ⟨modifiers, hmodifiers, rfl⟩ := h
    exact ⟨modifiers, hmodifiers, sliderCall_takes.line⟩

theorem textArguments_takes {call call' : Call} {modifiers : Chain} {props : TextProps}
    (hcall : call.Takes modifiers) (h : textArguments call props = .ok call') :
    call'.Takes modifiers := by
  simp only [textArguments, Outcome.bind_eq_ok, Outcome.pure_eq_ok] at h
  obtain ⟨limit, -, rfl⟩ := h
  exact hcall |>.argOf _ _ |>.argOf _ _ |>.argOf _ _ |>.argOf _ _ |>.argOf _ _ |>.argOf _ _
    |>.argOf _ _

theorem textLine_takes {props : TextProps} (h : (textLine scope f props).result = .ok line) :
    ∃ modifiers,
      (chain scope .text f []).result = .ok modifiers ∧ LineTakes line modifiers := by
  simp only [textLine, blame, Noted.result_bind, Outcome.Except_bind_eq_ok, Noted.result_of,
    Outcome.mapError_eq_ok, Noted.result_pure, Except.ok.injEq] at h
  obtain ⟨modifiers, hmodifiers, call, hcall, rfl⟩ := h
  exact ⟨modifiers, hmodifiers,
    (textArguments_takes (Call.Takes.modified _ modifiers) hcall).line⟩

theorem buttonLine_takes {props : TextProps} (h : (buttonLine scope f props).result = .ok line) :
    ∃ modifiers,
      (chain scope .button f []).result = .ok modifiers ∧ LineTakes line modifiers := by
  simp only [buttonLine, blame, Noted.result_bind, Outcome.Except_bind_eq_ok, Noted.result_of,
    Outcome.mapError_eq_ok, Noted.result_pure, Except.ok.injEq] at h
  obtain ⟨modifiers, hmodifiers, text, -, rfl⟩ := h
  exact ⟨modifiers, hmodifiers, ((Call.Takes.modified _ modifiers).enabled _).line |>.append _
    |>.append _ |>.append _⟩

theorem fieldLine_takes {props : TextProps} {hint : Option Caption} {input : InputType}
    {singleLine : Bool} (h : (fieldLine scope f props hint input singleLine).result = .ok line) :
    ∃ modifiers,
      (chain scope .field f []).result = .ok modifiers ∧ LineTakes line modifiers := by
  simp only [fieldLine, blame, Noted.result_bind, Outcome.Except_bind_eq_ok, Noted.result_of,
    Outcome.mapError_eq_ok, Noted.result_pure, Except.ok.injEq] at h
  obtain ⟨modifiers, hmodifiers, limit, -, rfl⟩ := h
  refine ⟨modifiers, hmodifiers, Call.Takes.line ?_⟩
  exact (Call.Takes.modified _ modifiers).enabled _ |>.argOf _ _ |>.argOf _ _ |>.argOf _ _
    |>.argOf _ _ |>.argOf _ _ |>.argOf _ _

theorem imageLine_takes {source : Reference} {scaling : Scaling}
    (h : (imageLine scope f source scaling).result = .ok line) : ∃ modifiers,
      (chain scope .image f []).result = .ok modifiers ∧ LineTakes line modifiers := by
  simp only [imageLine, Noted.result_bind, Outcome.Except_bind_eq_ok, Noted.result_pure,
    Except.ok.injEq] at h
  obtain ⟨modifiers, hmodifiers, rfl⟩ := h
  exact ⟨modifiers, hmodifiers, ((Call.Takes.modified _ modifiers).argOf _ _).line⟩

theorem plainLine_takes (h : (plainLine scope f).result = .ok line) : ∃ modifiers,
    (chain scope .plain f []).result = .ok modifiers ∧ LineTakes line modifiers := by
  simp only [plainLine, Noted.result_bind, Outcome.Except_bind_eq_ok, Noted.result_pure,
    Except.ok.injEq] at h
  obtain ⟨modifiers, hmodifiers, rfl⟩ := h
  refine ⟨modifiers, hmodifiers, Call.Takes.line fun text htext => ?_⟩
  rw [Option.mem_def] at htext
  rw [htext]
  exact List.mem_cons_self

/-- The line of a control takes its modifiers, unless it is an inclusion. -/
theorem controlLine_takes {c : Control} (hc : c.kind ≠ .inclusion)
    (h : (controlLine scope f c).result = .ok line) : ∃ modifiers,
      (chain scope c.kind f []).result = .ok modifiers ∧ LineTakes line modifiers := by
  cases c with
  | text props => exact textLine_takes h
  | button props => exact buttonLine_takes h
  | field props hint input singleLine => exact fieldLine_takes h
  | image source scaling => exact imageLine_takes h
  | toggle form label checked => exact toggleLine_takes h
  | rangeSlider t values => exact rangeSliderLine_takes h
  | slider t value => exact sliderLine_takes h
  | plain => exact plainLine_takes h
  | inclusion layout => exact absurd rfl hc

end Lines

theorem groupCall_takes (modifiers : Chain) (g : Group) :
    (groupCall modifiers g).Takes modifiers := by
  have hlinear (gravity : Gravity) (orientation : Orientation) :
      (linearCall modifiers gravity orientation).Takes modifiers := by
    cases orientation with
    | horizontal => exact (Call.Takes.modified _ modifiers).argOf _ _ |>.argOf _ _
    | vertical => exact (Call.Takes.modified _ modifiers).argOf _ _ |>.argOf _ _
  cases g with
  | row gravity => exact hlinear gravity .horizontal
  | column gravity => exact hlinear gravity .vertical
  | box gravity => exact (Call.Takes.modified _ modifiers).argOf _ _
  | linear gravity orientation => exact hlinear gravity orientation
  | radioGroup gravity orientation => exact hlinear gravity orientation
  | card corner color elevation =>
      exact (Call.Takes.modified _ modifiers).argOf _ _ |>.argOf _ _ |>.argOf _ _
  | scroll horizontal => exact hlinear {} (scrollOrientation horizontal)
  | constraint => exact Call.Takes.modified _ modifiers

/-- A view that is shown in the scope of a reference is one piece of code. Unless the view is an
inclusion, the code begins with the tie to the reference. -/
theorem viewCode_tiesTo {ids : List (String × Option String)} {name : String} {v : View}
    {code : List Code} (hgone : v.isGone = false)
    (h : (viewCode (.constraint ids (some name)) v).result = .ok code) :
    ∃ piece, code = [piece] ∧ (v.kind ≠ .inclusion → TiesTo piece.opening name) := by
  cases v with
  | control f c =>
      have hshown : f.visibility ≠ .gone := beq_eq_false_iff_ne.mp hgone
      obtain ⟨text, htext, rfl⟩ := (viewCode_control_eq_ok_iff hshown).mp h
      refine ⟨_, rfl, fun hkind => ?_⟩
      obtain ⟨modifiers, hmodifiers, hline⟩ := controlLine_takes hkind htext
      obtain ⟨links, others, hcalls⟩ := chain_begins hmodifiers
      exact ⟨modifiers, links, others, hline, hcalls⟩
  | group f g vs =>
      have hshown : f.visibility ≠ .gone := beq_eq_false_iff_ne.mp hgone
      obtain ⟨-, modifiers, body, hmodifiers, -, rfl⟩ := (viewCode_group_eq_ok_iff hshown).mp h
      refine ⟨_, rfl, fun _ => ?_⟩
      obtain ⟨links, others, hcalls⟩ := chain_begins hmodifiers
      have htakes := groupCall_takes modifiers g
      have hheader : (groupCall modifiers g).header = (groupCall modifiers g).text :=
        htakes.header_eq (by simp [hcalls])
      refine ⟨modifiers, links, others, ?_, hcalls⟩
      rw [Code.opening, hheader]
      exact htakes.line.append _

/-! ### Places on the page -/

/-- The code of views is made of the bodies of each of them. -/
theorem exists_bodies_of_viewsCode {scope : Nat → Scope} {i : Nat} {vs : List View}
    {code : List Code} (h : (viewsCode scope i vs).result = .ok code) :
    ∃ bodies : List (List Code), bodies.flatten = code ∧ bodies.length = vs.length ∧
      ∀ (j : Nat) (v : View), vs[j]? = some v →
        ∃ body, bodies[j]? = some body ∧ (viewCode (scope (i + j)) v).result = .ok body := by
  induction vs generalizing i code with
  | nil =>
      obtain rfl := Except.ok.inj h
      exact ⟨[], rfl, rfl, by simp⟩
  | cons v vs ih =>
      obtain ⟨first, rest, hfirst, hrest, rfl⟩ := viewsCode_cons_eq_ok_iff.mp h
      obtain ⟨bodies, rfl, hlength, hbodies⟩ := ih hrest
      refine ⟨first :: bodies, rfl, by simp [hlength], fun j w hw => ?_⟩
      cases j with
      | zero =>
          obtain rfl := Option.some.inj hw
          exact ⟨first, rfl, hfirst⟩
      | succ j =>
          have hindex : i + (j + 1) = i + 1 + j := by omega
          rw [hindex]
          exact hbodies j w hw

end Compose

theorem Kotlin.Code.linesAll_infix {code all : List Code} (depth : Nat) (h : code <:+: all) :
    Code.linesAll depth code <:+: Code.linesAll depth all := by
  obtain ⟨before, after, rfl⟩ := h
  rw [Code.linesAll_append, Code.linesAll_append]
  exact ⟨_, _, rfl⟩

theorem View.Shows.shown_isGone {v w : View} {place p : Place} (h : v.Shows place p w) :
    w.isGone = false := by
  cases h with
  | self hgone => exact hgone
  | child _ _ hgone => exact hgone

namespace Compose

/-- The lines of one of several views stand together among the lines of all of them. -/
theorem linesAll_infix_of_viewsCode {scope : Nat → Scope} {vs : List View} {code : List Code}
    {i : Nat} {v : View} (depth : Nat) (h : (viewsCode scope 0 vs).result = .ok code)
    (hv : vs[i]? = some v) : ∃ body, (viewCode (scope i) v).result = .ok body ∧
      Code.linesAll depth body <:+: Code.linesAll depth code := by
  obtain ⟨bodies, rfl, -, hbodies⟩ := exists_bodies_of_viewsCode h
  obtain ⟨body, hbody, hcode⟩ := hbodies i v hv
  rw [Nat.zero_add] at hcode
  exact ⟨body, hcode, Code.linesAll_infix depth
    (List.infix_of_mem_flatten (List.mem_of_getElem? hbody))⟩

/-- The lines of a view that is shown stand together among those of the view around it. -/
theorem linesAll_infix_of_shows {root w : View} {p : Place} {code : List Code} (depth : Nat)
    (hcode : (viewCode .top root).result = .ok code) (h : root.Shows .root p w) :
    ∃ body levels, (viewCode (placeScope p) w).result = .ok body ∧
      Code.linesAll levels body <:+: Code.linesAll depth code := by
  induction h with
  | self _ => exact ⟨code, depth, hcode, List.infix_rfl⟩
  | @child p u w i hu hw _ ih =>
      obtain ⟨outer, levels, houter, hinfix⟩ := ih
      cases u with
      | control f c => simp [View.children] at hw
      | group f g vs =>
          have hshown : f.visibility ≠ .gone := beq_eq_false_iff_ne.mp hu.shown_isGone
          obtain ⟨-, modifiers, inner, -, hinner, rfl⟩ :=
            (viewCode_group_eq_ok_iff hshown).mp houter
          obtain ⟨body, hbody, hlines⟩ := linesAll_infix_of_viewsCode (levels + 1) hinner hw
          refine ⟨body, levels + 1, hbody, hlines.trans (List.IsInfix.trans ?_ hinfix)⟩
          rw [Code.linesAll, Code.linesAll, List.append_nil, Code.lines, Code.linesAll_append,
            ← List.cons_append]
          exact ⟨_, _, rfl⟩

theorem linesAll_infix_of_layout_shows {layout : Layout} {w : View} {p : Place}
    {code : List Code} (depth : Nat)
    (hcode : (viewsCode (fun _ => .top) 0 layout.roots).result = .ok code)
    (h : layout.Shows p w) : ∃ body levels, (viewCode (placeScope p) w).result = .ok body ∧
      Code.linesAll levels body <:+: Code.linesAll depth code := by
  obtain ⟨root, hroot, hshows⟩ := h
  obtain ⟨i, hi⟩ := List.mem_iff_getElem?.mp hroot
  obtain ⟨outer, houter, hinfix⟩ := linesAll_infix_of_viewsCode depth hcode hi
  obtain ⟨body, levels, hbody, hlines⟩ := linesAll_infix_of_shows depth houter hshows
  exact ⟨body, levels, hbody, hlines.trans hinfix⟩

/-! ### References -/

/-- A reference that is declared belongs to one child, which is shown. -/
theorem References.exists_owner {children : List View} {name : String}
    (h : Distinct children) (hname : name ∈ (given children).declared) :
    ∃ (i : Nat) (v : View), children[i]? = some v ∧ v.isGone = false ∧
      ∀ j, (given children).nameAt j = some name ↔ j = i := by
  have hnameAt (j : Nat) : (given children).nameAt j = some name ↔
      (given children).names[j]? = some (some name) := by
    rw [nameAt, Option.join_eq_some_iff]
  obtain ⟨i, hi⟩ := List.mem_iff_getElem?.mp (mem_declared.mp hname)
  have hlt : i < children.length := by
    rw [← length_names_given]
    exact (List.getElem?_eq_some_iff.mp hi).1
  have hv := List.getElem?_eq_getElem hlt
  have hneeded := (exists_nameAt_iff hv).mp ⟨name, (hnameAt i).mpr hi⟩
  rw [isNeeded, Bool.and_eq_true, Bool.not_eq_true'] at hneeded
  refine ⟨i, _, hv, hneeded.1, fun j => ⟨fun hj => ?_, ?_⟩⟩
  · exact index_eq_of_nodup_filterMap (nodup_declared_given h) ((hnameAt j).mp hj) hi rfl rfl
  · rintro rfl
    exact (hnameAt j).mpr hi

/-- The references of a constraint group in its code, where `bodies` holds the code of each child
in order. -/
structure Attached (children : List View) (refs : References) (bodies : List (List Code)) :
    Prop where
  /-- Each child is written in the scope of its own reference. -/
  written : ∀ (i : Nat) v, children[i]? = some v → ∃ body, bodies[i]? = some body ∧
    (viewCode (.constraint refs.ids (refs.nameAt i)) v).result = .ok body
  /-- Each reference belongs to one child. That child is one piece of code, which begins with the
  tie to the reference unless the child is an inclusion. -/
  owner : ∀ name ∈ refs.declared, ∃ (i : Nat) (v : View) (piece : Code),
    (∀ j, refs.nameAt j = some name ↔ j = i) ∧ children[i]? = some v ∧
      bodies[i]? = some [piece] ∧ (v.kind ≠ .inclusion → TiesTo piece.opening name)
  /-- A child is tied to the parent or to a reference of the group. -/
  targets : ∀ (i : Nat) v tie target, children[i]? = some v → tie ∈ v.frame.constraints →
    tieTarget refs.ids v.id tie = .ok target → target = "parent" ∨ target ∈ refs.declared

theorem attached_given {children : List View} {bodies : List (List Code)}
    (h : References.Distinct children)
    (hbodies : ∀ (i : Nat) v, children[i]? = some v → ∃ body, bodies[i]? = some body ∧
      (viewCode (childScope .constraint children i) v).result = .ok body) :
    Attached children (References.given children) bodies := by
  refine ⟨hbodies, fun name hname => ?_, fun i v tie target hv _ htarget => ?_⟩
  · obtain ⟨i, v, hv, hgone, howner⟩ := References.exists_owner h hname
    obtain ⟨body, hbody, hcode⟩ := hbodies i v hv
    rw [childScope, (howner i).mpr rfl] at hcode
    obtain ⟨piece, rfl, hties⟩ := viewCode_tiesTo hgone hcode
    exact ⟨i, v, piece, howner, hv, hbody, hties⟩
  · rcases References.eq_name_of_tieTarget h hv htarget with hparent | ⟨_, j, _, _, _, _, _, hj⟩
    · exact .inl hparent.2
    · exact .inr (References.mem_declared.mpr (List.mem_of_getElem? hj))

/-- The block of a constraint group stands in a text: first the references that it declares, then
its children, which carry them. -/
def AttachedIn (text : String) (children : List View) : Prop :=
  ∃ refs header bodies levels before after,
    (References.ofChildren children).result = .ok refs ∧
      text = before ++ String.join ((Code.lines levels (.block header
        (refs.declared.map (fun name => .line ("val " ++ name ++ " = createRef()")) ++
          bodies.flatten))).map Kotlin.lineText) ++ after ∧
      Attached children refs bodies

end Compose

/-- Each reference that a constraint group declares on a page belongs to one of its children, and
the code of that child begins with the tie to it, unless the child is an inclusion. -/
theorem Layout.compose_attaches_references {layout : Layout} {depth : Nat} {text : String}
    {p : Place} {f : Frame} {children : List View}
    (hcompose : (layout.compose depth).result = .ok text)
    (hshows : layout.Shows p (.group f .constraint children)) :
    Compose.AttachedIn text children := by
  obtain ⟨all, hall, rfl⟩ := Layout.compose_eq_ok_iff.mp hcompose
  obtain ⟨code, levels, hcode, before, after, hlines⟩ :=
    Compose.linesAll_infix_of_layout_shows depth hall hshows
  have hshown : f.visibility ≠ .gone := by
    obtain ⟨root, -, hroot⟩ := hshows
    exact beq_eq_false_iff_ne.mp hroot.shown_isGone
  obtain ⟨hholds, modifiers, body, -, hbody, rfl⟩ :=
    (Compose.viewCode_group_eq_ok_iff hshown).mp hcode
  obtain ⟨bodies, rfl, -, hbodies⟩ := Compose.exists_bodies_of_viewsCode hbody
  simp only [Nat.zero_add] at hbodies
  have hdistinct := hholds.distinct rfl
  refine ⟨Compose.References.given children, (Compose.groupCall modifiers .constraint).header,
    bodies, levels, String.join (before.map Kotlin.lineText),
    String.join (after.map Kotlin.lineText),
    Compose.References.ofChildren_eq_ok_iff.mpr ⟨hdistinct, rfl⟩, ?_,
    Compose.attached_given hdistinct hbodies⟩
  rw [Code.writeAll_eq, Kotlin.Page.addLines, ← hlines, List.map_append, List.map_append,
    String.join_append, String.join_append, Code.linesAll, Code.linesAll, List.append_nil]
  exact String.empty_append

theorem Layout.compose_attaches_references_tied : ∃ text,
    (Layout.compose ⟨[.group {} .constraint [.control { id := some "bar" } .plain,
      .control { constraints := [⟨.top, .sibling "bar", .bottom⟩] } .plain]]⟩ 0).result =
        .ok text ∧
      "ConstraintLayout \x7b\n    val bar = createRef()\n    val ref0 = createRef()\n" ++
        "    Spacer(modifier = Modifier.constrainAs(bar) \x7b\x7d)\n" ++
        "    Spacer(modifier = Modifier.constrainAs(ref0) \x7b top.linkTo(bar.bottom) \x7d)\n" ++
        "\x7d\n" = text ∧
      Compose.AttachedIn text [.control { id := some "bar" } .plain,
        .control { constraints := [⟨.top, .sibling "bar", .bottom⟩] } .plain] := by
  obtain ⟨text, hcompose, htext⟩ : ∃ text,
      (Layout.compose ⟨[.group {} .constraint [.control { id := some "bar" } .plain,
        .control { constraints := [⟨.top, .sibling "bar", .bottom⟩] } .plain]]⟩ 0).result =
          .ok text ∧
        "ConstraintLayout \x7b\n    val bar = createRef()\n    val ref0 = createRef()\n" ++
          "    Spacer(modifier = Modifier.constrainAs(bar) \x7b\x7d)\n" ++
          "    Spacer(modifier = Modifier.constrainAs(ref0) \x7b top.linkTo(bar.bottom) \x7d)\n" ++
          "\x7d\n" = text := by
    decide +kernel
  exact ⟨text, hcompose, htext, Layout.compose_attaches_references hcompose
    ⟨_, List.mem_cons_self, .self rfl⟩⟩

/-- The reference of an inclusion is declared and a sibling is tied to it, but no view carries
it. -/
theorem Layout.compose_leaves_inclusion_unattached : ∃ layout,
    (Layout.read false ("<ConstraintLayout>" ++
      "<include android:id=\"@+id/bar\" layout=\"@layout/top\"/>" ++
      "<View app:layout_constraintTop_toBottomOf=\"@id/bar\"/>" ++
      "</ConstraintLayout>")).result = .ok layout ∧
      ∃ text, (layout.compose 0).result = .ok text ∧
        "ConstraintLayout \x7b\n    val bar = createRef()\n    val ref0 = createRef()\n" ++
          "    Top()\n" ++
          "    Spacer(modifier = Modifier.constrainAs(ref0) \x7b top.linkTo(bar.bottom) \x7d)\n" ++
          "\x7d\n" = text ∧
        ¬ "constrainAs(bar)".toList <:+: text.toList := by
  decide +kernel

end LayoutCompose
