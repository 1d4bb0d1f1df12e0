import LayoutCompose.Proofs.ReadValues
import LayoutCompose.Proofs.Scanner
import LayoutCompose.Proofs.ViewCode

/-!
The text of modifiers.

Whatever values a document gives to a view, its modifiers leave no bracket and no literal open.
This is followed from the expressions of values through calls and the names of references to the
chain as a whole.
-/

namespace LayoutCompose

open Kotlin (Call Chain IsLine Neutral Piece Turns)

/-! ### Expressions -/

theorem Reference.neutral_constant {kinds : List String} {r : Reference} (h : r.IsOf kinds)
    (hkinds : ∀ kind ∈ kinds, Neutral kind) : Neutral r.constant := by
  have hroot : Neutral (if r.framework then "android.R" else "R") := by
    split <;> exact .literal (by decide)
  have hdot : Neutral "." := .literal (by decide)
  have hkind : Neutral r.kind := hkinds r.kind h.kind
  have hname : Neutral r.name := Kotlin.neutral_of_isName h.name
  exact (((hroot.append hdot).append hkind).append hdot).append hname

theorem Dimension.neutral_dpExpression {d : Dimension} (h : d.Proper) :
    Neutral d.dpExpression := by
  cases d with
  | dp x => exact (Kotlin.neutral_numeral x).append (.literal (by decide))
  | sp x => exact (Kotlin.neutral_numeral x).append (.literal (by decide))
  | px x => exact .within ['\x7b'] (by decide) (Kotlin.neutral_floatLiteral x) (by decide)
  | resource r => exact .within ['('] (by decide) (r.neutral_constant h (by decide)) (by decide)

theorem Dimension.neutral_spExpression {d : Dimension} (h : d.Proper) :
    Neutral d.spExpression := by
  cases d with
  | sp x => exact (Kotlin.neutral_numeral x).append (.literal (by decide))
  | dp x => exact (Kotlin.neutral_numeral x).append (.literal (by decide))
  | px x => exact .within ['\x7b'] (by decide) (Kotlin.neutral_floatLiteral x) (by decide)
  | resource r => exact .within ['('] (by decide) (r.neutral_constant h (by decide)) (by decide)

theorem Color.neutral_expression {c : Color} (h : c.Proper) : Neutral c.expression := by
  cases c with
  | argb word =>
      have hdigits := Kotlin.neutral_hexDigits 8 word.toNat
      unfold Color.expression
      dsimp only
      split
      · exact .literal (by decide)
      split
      · exact .literal (by decide)
      split
      · exact .literal (by decide)
      · exact .within ['('] (by decide) hdigits (by decide)
  | resource r => exact .within ['('] (by decide) (r.neutral_constant h (by decide)) (by decide)
  | theme color =>
      have hproperty : Neutral color.property := by cases color <;> exact .literal (by decide)
      exact Piece.append (b := []) (.literal (by decide)) hproperty

theorem Caption.neutral_expression {c : Caption} (h : c.Proper) : Neutral c.expression := by
  cases c with
  | literal text => exact Kotlin.neutral_stringLiteral text
  | resource r => exact .within ['('] (by decide) (r.neutral_constant h (by decide)) (by decide)

theorem Font.neutral_expression {f : Font} (h : f.Proper) : Neutral f.expression := by
  cases f with
  | resource r =>
      exact .within ['(', '('] (by decide) (r.neutral_constant h (by decide)) (by decide)
  | _ => exact .literal (by decide)

/-! ### Calls -/

namespace Kotlin

/-- A chain of modifiers that leave nothing open. -/
def Chain.Sound (chain : Chain) : Prop :=
  ∀ call ∈ chain.calls, Neutral call

theorem Chain.Sound.text {chain : Chain} (h : chain.Sound) :
    ∀ text ∈ chain.text?, Neutral text := by
  have hfold (calls : List String) (init : String) (hinit : Neutral init)
      (hcalls : ∀ call ∈ calls, Neutral call) :
      Neutral (calls.foldl (fun text call => text ++ "." ++ call) init) := by
    induction calls generalizing init with
    | nil => exact hinit
    | cons call calls ih =>
        rw [List.forall_mem_cons] at hcalls
        exact ih _ ((hinit.append (.literal (by decide))).append hcalls.1) hcalls.2
  intro text htext
  unfold Chain.text? at htext
  split at htext
  · exact nomatch htext
  · obtain rfl := Option.some.inj htext
    exact hfold _ _ (.literal (by decide)) h

structure Call.Sound (call : Call) : Prop where
  name : IsLine call.name
  arguments : ∀ a ∈ call.arguments, Neutral a

namespace Call.Sound

variable {call : Call}

theorem of_name {name : String} (h : IsLine name) : ({ name } : Call).Sound :=
  ⟨h, nofun⟩

theorem named {c : Char} {cs : List Char} (h : Turns [] [] (c :: cs)) (hc : c ≠ ' ') :
    ({ name := String.ofList (c :: cs) } : Call).Sound :=
  of_name (.literal h hc)

theorem arg {name : List Char} {value : String} (h : call.Sound) (hname : Turns [] [] name)
    (hvalue : Neutral value) : (call.arg (String.ofList name) value).Sound where
  name := h.name
  arguments := by
    have harg : Neutral (String.ofList name ++ " = " ++ value) :=
      ((Piece.literal hname).append (.literal (by decide))).append hvalue
    simp only [Call.arg, List.forall_mem_append, List.forall_mem_singleton]
    exact ⟨h.arguments, harg⟩

theorem argOf {name : List Char} {value : Option String} (h : call.Sound)
    (hname : Turns [] [] name) (hvalue : ∀ v ∈ value, Neutral v) :
    (call.argOf (String.ofList name) value).Sound := by
  cases value with
  | none => exact h
  | some v => exact h.arg hname (hvalue v rfl)

theorem modified {chain : Chain} (h : call.Sound) (hchain : chain.Sound) :
    (call.modified chain).Sound :=
  h.argOf (by decide) hchain.text

theorem enabled (h : call.Sound) (enabled : Bool) : (call.enabled enabled).Sound := by
  cases enabled with
  | true => exact h
  | false => exact h.arg (by decide) (.literal (by decide))

theorem text (h : call.Sound) : IsLine call.text := by
  have hopen : Piece [] ['('] (call.name ++ "(") :=
    h.name.neutral.append (.literal (by decide))
  have harguments : Neutral (", ".intercalate call.arguments) :=
    .intercalate (.literal (by decide)) h.arguments
  exact ⟨harguments.enclosed hopen (.literal (by decide)),
    ((h.name.begins.append _).append _).append _⟩

theorem header (h : call.Sound) : IsLine call.header := by
  unfold Call.header
  split
  · exact h.name
  · exact h.text

end Call.Sound

end Kotlin

/-! ### References -/

namespace Compose

namespace References

theorem neutral_numbered (n : Nat) : Neutral (numbered n) :=
  Piece.append (b := []) (.literal (by decide)) (Kotlin.neutral_nat n)

theorem neutral_spelledName {v : View} (hid : ∀ id ∈ v.id, Text.isName id.toList = true) :
    ∀ name ∈ spelledName v, Neutral name := by
  intro name hname
  unfold spelledName at hname
  split at hname
  · exact nomatch hname
  · obtain ⟨hmap, -⟩ := Option.filter_eq_some_iff.mp hname
    obtain ⟨id, hmem, rfl⟩ := Option.map_eq_some_iff.mp hmap
    exact Kotlin.neutral_variableName (hid id hmem)

theorem neutral_complete {n : Nat} {taken : List String} {pairs : List (View × Option String)}
    (h : ∀ pair ∈ pairs, ∀ name ∈ pair.2, Neutral name) :
    ∀ own ∈ complete n taken pairs, ∀ name ∈ own, Neutral name := by
  induction pairs generalizing n taken with
  | nil => exact List.forall_mem_nil _
  | cons pair pairs ih =>
      rw [List.forall_mem_cons] at h
      obtain ⟨v, own⟩ := pair
      cases own with
      | some name =>
          rw [complete, List.forall_mem_cons]
          exact ⟨h.1, ih h.2⟩
      | none =>
          rw [complete]
          split
          · dsimp only
            rw [List.forall_mem_cons]
            refine ⟨?_, ih h.2⟩
            rintro name ⟨⟩
            exact neutral_numbered _
          · rw [List.forall_mem_cons]
            exact ⟨by simp, ih h.2⟩

/-- All names of references that are made from names leave nothing open. -/
theorem neutral_names_given {children : List View}
    (hids : ∀ v ∈ children, ∀ id ∈ v.id, Text.isName id.toList = true) :
    ∀ own ∈ (given children).names, ∀ name ∈ own, Neutral name := by
  refine neutral_complete fun pair hpair => ?_
  obtain ⟨v, hv, rfl⟩ := List.mem_map.mp hpair
  exact neutral_spelledName (hids v hv)

theorem mem_of_mem_namedIds {pairs : List (View × Option String)} {id : String}
    {own : Option String} (h : (id, own) ∈ namedIds pairs) : ∃ v, (v, own) ∈ pairs := by
  induction pairs with
  | nil => exact nomatch h
  | cons pair pairs ih =>
      obtain ⟨v, name⟩ := pair
      have hlater (h : (id, own) ∈ namedIds pairs) : ∃ w, (w, own) ∈ (v, name) :: pairs :=
        (ih h).imp fun w hw => List.mem_cons_of_mem _ hw
      rw [namedIds] at h
      split at h
      · rcases List.mem_cons.mp h with heq | h
        · obtain ⟨-, rfl⟩ := Prod.mk.inj heq
          exact ⟨v, List.mem_cons_self⟩
        · exact hlater h
      · exact hlater h

end References

/-- The names that a scope has for references leave nothing open. -/
def Scope.Sound : Scope → Prop
  | .constraint ids own =>
      (∀ pair ∈ ids, ∀ name ∈ pair.2, Neutral name) ∧ ∀ name ∈ own, Neutral name
  | _ => True

theorem childScope_sound {g : Group} {children : List View}
    (hids : ∀ v ∈ children, ∀ id ∈ v.id, Text.isName id.toList = true) (i : Nat) :
    (childScope g children i).Sound := by
  have hnames := References.neutral_names_given hids
  have hlinear (orientation : Orientation) : (linearScope orientation).Sound := by
    cases orientation <;> trivial
  cases g with
  | linear gravity orientation => exact hlinear orientation
  | radioGroup gravity orientation => exact hlinear orientation
  | scroll horizontal => exact hlinear (scrollOrientation horizontal)
  | constraint =>
      constructor
      · rintro ⟨id, own⟩ hpair
        obtain ⟨v, hv⟩ := References.mem_of_mem_namedIds hpair
        exact hnames own (List.of_mem_zip hv).2
      · intro name hname
        rw [References.nameAt, Option.mem_def, Option.join_eq_some_iff] at hname
        exact hnames _ (List.mem_of_getElem? hname) name rfl
  | _ => trivial

/-! ### Modifiers -/

theorem neutral_some {s : String} (h : Neutral s) : ∀ text ∈ some s, Neutral text := by
  rintro text ⟨⟩
  exact h

theorem tieTarget_neutral {ids : List (String × Option String)} {own : Option String}
    {tie : Constraint} {target : String} (hids : ∀ pair ∈ ids, ∀ name ∈ pair.2, Neutral name)
    (h : tieTarget ids own tie = .ok target) : Neutral target := by
  unfold tieTarget at h
  split at h
  · obtain rfl := Except.ok.inj h
    exact .literal (by decide)
  · rename_i id _
    split at h
    · exact nomatch h
    · split at h
      · rename_i name hlookup
        obtain rfl := Except.ok.inj h
        obtain ⟨before, after, rfl, -⟩ := List.lookup_eq_some_iff.mp hlookup
        exact hids (id, some name) (by simp) name rfl
      · exact nomatch h
      · exact nomatch h

theorem tieTexts_neutral {ids : List (String × Option String)} {own : Option String}
    {ties : List Constraint} {texts : List String}
    (hids : ∀ pair ∈ ids, ∀ name ∈ pair.2, Neutral name)
    (h : tieTexts ids own ties = .ok texts) : ∀ text ∈ texts, Neutral text := by
  have hanchor (anchor : Anchor) : Neutral (anchorName anchor) := by
    cases anchor <;> exact .literal (by decide)
  induction ties generalizing texts with
  | nil =>
      obtain rfl := Except.ok.inj h
      exact List.forall_mem_nil _
  | cons tie ties ih =>
      simp only [tieTexts, tieText, Outcome.bind_eq_ok, Outcome.pure_eq_ok] at h
      obtain ⟨text, ⟨target, htarget, rfl⟩, texts, htexts, rfl⟩ := h
      have hopen : Piece [] ['('] (anchorName tie.anchor ++ ".linkTo(") :=
        (hanchor tie.anchor).append (.literal (by decide))
      have hdot : Neutral "." := .literal (by decide)
      have hinside : Neutral (target ++ "." ++ anchorName tie.targetAnchor) :=
        ((tieTarget_neutral hids htarget).append hdot).append (hanchor tie.targetAnchor)
      rw [List.forall_mem_cons]
      refine ⟨?_, ih htexts⟩
      have hclose : Piece ['('] [] ")" := .literal (by decide)
      simpa only [String.append_assoc] using hinside.enclosed hopen hclose

theorem block_neutral {links : List String} (h : ∀ link ∈ links, Neutral link) :
    Neutral (if links.isEmpty then "\x7b\x7d"
      else "\x7b " ++ "; ".intercalate links ++ " \x7d") := by
  split
  · exact .literal (by decide)
  · exact .within ['\x7b'] (by decide) (.intercalate (.literal (by decide)) h) (by decide)

theorem constrainCall_neutral {ids : List (String × Option String)} {name call : String}
    {f : Frame} (hids : ∀ pair ∈ ids, ∀ name ∈ pair.2, Neutral name) (hname : Neutral name)
    (h : constrainCall ids name f = .ok call) : Neutral call := by
  simp only [constrainCall, Outcome.bind_eq_ok, Outcome.pure_eq_ok] at h
  obtain ⟨ties, hties, rfl⟩ := h
  have hlinks : ∀ link ∈ ties ++
      (if f.width.isZero then ["width = Dimension.fillToConstraints"] else []) ++
      (if f.height.isZero then ["height = Dimension.fillToConstraints"] else []),
      Neutral link := by
    simp only [List.forall_mem_append]
    refine ⟨⟨tieTexts_neutral hids hties, ?_⟩, ?_⟩
    · split <;> decide
    · split <;> decide
  have hfront : Neutral ("constrainAs(" ++ name ++ ") ") :=
    .within ['('] (by decide) hname (by decide)
  exact hfront.append (block_neutral hlinks)

theorem constrainCalls_neutral {scope : Scope} {kind : Kind} {f : Frame} {calls : List String}
    (hscope : scope.Sound) (h : (constrainCalls scope kind f).result = .ok calls) :
    ∀ call ∈ calls, Neutral call := by
  unfold constrainCalls at h
  split at h
  · rename_i ids name
    simp only [Noted.result_bind, Outcome.Except_bind_eq_ok, Noted.result_of, Noted.result_pure,
      Except.ok.injEq] at h
    obtain ⟨call, hcall, rfl⟩ := h
    rw [List.forall_mem_singleton]
    exact constrainCall_neutral hscope.1 (hscope.2 name rfl) hcall
  · obtain rfl := Except.ok.inj h
    exact List.forall_mem_nil _
  · split at h
    · obtain rfl := Except.ok.inj h
      exact List.forall_mem_nil _
    · obtain rfl := Except.ok.inj h
      exact List.forall_mem_nil _

theorem sideArguments_neutral {sides : List (String × Option Dimension)}
    (hnames : ∀ side ∈ sides, Neutral side.1)
    (hsides : ∀ side ∈ sides, ∀ d ∈ side.2, d.Proper) :
    ∀ text ∈ sideArguments sides, Neutral text := by
  intro text htext
  obtain ⟨⟨name, side⟩, hmem, hside⟩ := List.mem_filterMap.mp htext
  obtain ⟨d, hd, rfl⟩ := Option.map_eq_some_iff.mp hside
  have hlength : Neutral d.dpExpression := d.neutral_dpExpression (hsides _ hmem d hd)
  exact ((hnames _ hmem).append (.literal (by decide))).append hlength

theorem paddingCall_neutral {e : Edges} (he : e.Proper) :
    ∀ call ∈ paddingCall? e, Neutral call := by
  have hpresent : ∀ side ∈ e.sides, ∀ d ∈ side.filter fun d => !d.isZero, d.Proper := by
    intro side hside d hd
    exact he side hside d (Option.filter_eq_some_iff.mp hd).1
  simp only [Edges.sides, List.forall_mem_cons] at hpresent
  obtain ⟨hleading, htop, htrailing, hbottom, -⟩ := hpresent
  intro call hcall
  unfold paddingCall? at hcall
  dsimp only at hcall
  split at hcall
  · cases hcall
  split at hcall
  · obtain ⟨d, hd, rfl⟩ := Option.map_eq_some_iff.mp hcall
    exact .within ['('] (by decide) (d.neutral_dpExpression (hleading d hd)) (by decide)
  · obtain rfl := Option.some.inj hcall
    refine .within ['('] (by decide) (.intercalate (.literal (by decide)) ?_) (by decide)
    split
    · refine sideArguments_neutral ?_ ?_
      · simp only [List.forall_mem_cons]
        exact ⟨.literal (by decide), .literal (by decide), by simp⟩
      · simp only [List.forall_mem_cons]
        exact ⟨hleading, htop, by simp⟩
    · refine sideArguments_neutral ?_ ?_
      · simp only [List.forall_mem_cons]
        exact ⟨.literal (by decide), .literal (by decide), .literal (by decide),
          .literal (by decide), by simp⟩
      · simp only [List.forall_mem_cons]
        exact ⟨hleading, htop, htrailing, hbottom, by simp⟩

theorem axisCalls_neutral {length : Extent} (h : length.Proper) :
    (∀ call ∈ widthCall? length, Neutral call) ∧ ∀ call ∈ heightCall? length, Neutral call := by
  cases length with
  | wrap => exact ⟨nofun, nofun⟩
  | fill => exact ⟨neutral_some (.literal (by decide)), neutral_some (.literal (by decide))⟩
  | fraction part =>
      have hpart := Kotlin.neutral_floatLiteral part
      exact ⟨neutral_some (.within ['('] (by decide) hpart (by decide)),
        neutral_some (.within ['('] (by decide) hpart (by decide))⟩
  | fixed d =>
      have hlength := d.neutral_dpExpression h
      exact ⟨neutral_some (.within ['('] (by decide) hlength (by decide)),
        neutral_some (.within ['('] (by decide) hlength (by decide))⟩

theorem sizeCalls_neutral {width height : Extent} (hwidth : width.Proper)
    (hheight : height.Proper) : ∀ call ∈ sizeCalls width height, Neutral call := by
  have hboth : ∀ call ∈ (widthCall? width).toList ++ (heightCall? height).toList,
      Neutral call := by
    simp only [List.forall_mem_append, Option.mem_toList]
    exact ⟨(axisCalls_neutral hwidth).1, (axisCalls_neutral hheight).2⟩
  unfold sizeCalls
  dsimp only
  split
  · decide
  · rename_i w h
    split
    · rw [List.forall_mem_singleton]
      exact .within ['('] (by decide) (w.neutral_dpExpression hwidth) (by decide)
    · exact hboth
  · exact hboth

theorem frameSizeCalls_neutral {scope : Scope} {f : Frame} (hf : f.Proper) :
    ∀ call ∈ frameSizeCalls scope f, Neutral call := by
  refine sizeCalls_neutral ?_ ?_
  · split
    · trivial
    · exact hf.width
  · split
    · trivial
    · exact hf.height

theorem rowAlignment_neutral (g : Option Vertical) : ∀ text ∈ rowAlignment? g, Neutral text := by
  rcases g with _ | _ | _ | _ <;> decide

theorem columnAlignment_neutral (g : Option Horizontal) :
    ∀ text ∈ columnAlignment? g, Neutral text := by
  rcases g with _ | _ | _ | _ <;> decide

theorem boxAlignment_neutral (g : Gravity) : ∀ text ∈ boxAlignment? g, Neutral text := by
  unfold boxAlignment?
  split <;> decide

theorem childAlignment_neutral (scope : Scope) (g : Gravity) :
    ∀ text ∈ childAlignment? scope g, Neutral text := by
  cases scope with
  | row => exact rowAlignment_neutral _
  | column => exact columnAlignment_neutral _
  | box => exact boxAlignment_neutral _
  | _ => exact nofun

theorem weightCalls_neutral {scope : Scope} {f : Frame} {calls : List String}
    (h : weightCalls scope f = .ok calls) : ∀ call ∈ calls, Neutral call := by
  have hweight : Neutral ("weight(" ++ Kotlin.floatLiteral f.weight ++ ")") :=
    .within ['('] (by decide) (Kotlin.neutral_floatLiteral f.weight) (by decide)
  unfold weightCalls at h
  split at h
  · split at h
    · obtain rfl := Except.ok.inj h
      exact List.forall_mem_singleton.mpr hweight
    · obtain rfl := Except.ok.inj h
      exact List.forall_mem_singleton.mpr hweight
    · exact nomatch h
  · obtain rfl := Except.ok.inj h
    exact nofun

theorem marginCalls_neutral {f : Frame} {calls : List String} (hf : f.Proper)
    (h : marginCalls f = .ok calls) : ∀ call ∈ calls, Neutral call := by
  unfold marginCalls at h
  split at h
  · exact nomatch h
  · obtain rfl := Except.ok.inj h
    simp only [Option.mem_toList]
    exact paddingCall_neutral hf.margin

theorem paddingCalls_neutral {f : Frame} {calls : List String} (hf : f.Proper)
    (h : paddingCalls f = .ok calls) : ∀ call ∈ calls, Neutral call := by
  unfold paddingCalls at h
  split at h
  · exact nomatch h
  · obtain rfl := Except.ok.inj h
    simp only [Option.mem_toList]
    exact paddingCall_neutral hf.padding

theorem alphaCalls_neutral {f : Frame} {calls : List String} (h : alphaCalls f = .ok calls) :
    ∀ call ∈ calls, Neutral call := by
  unfold alphaCalls at h
  split at h
  · exact nomatch h
  split at h
  · obtain rfl := Except.ok.inj h
    decide
  split at h
  · obtain rfl := Except.ok.inj h
    rw [List.forall_mem_singleton]
    exact .within ['('] (by decide) (Kotlin.neutral_floatLiteral f.alpha) (by decide)
  · obtain rfl := Except.ok.inj h
    exact nofun

theorem backgroundCalls_neutral {f : Frame} (hf : f.Proper) :
    ∀ call ∈ backgroundCalls f, Neutral call := by
  unfold backgroundCalls
  split
  · rename_i c hbackground
    have hc : c.Proper := hf.background _ hbackground
    rw [List.forall_mem_singleton]
    exact .within ['('] (by decide) (c.neutral_expression hc) (by decide)
  · rename_i r hbackground
    have hr : r.IsOf ["drawable", "mipmap"] := hf.background _ hbackground
    rw [List.forall_mem_singleton]
    exact .within ['(', '('] (by decide) (r.neutral_constant hr (by decide)) (by decide)
  · exact nofun

theorem semanticsCalls_neutral {kind : Kind} {f : Frame} (hf : f.Proper) :
    ∀ call ∈ semanticsCalls kind f, Neutral call := by
  unfold semanticsCalls
  split
  · rename_i d hdescription
    split
    · exact nofun
    · rw [List.forall_mem_singleton]
      have hd : Neutral d.expression := d.neutral_expression (hf.description d hdescription)
      exact .within ['\x7b'] (by decide) hd (by decide)
  · exact nofun

/-- The modifiers of a view leave nothing open. -/
theorem chain_sound {scope : Scope} {kind : Kind} {f : Frame} {extras : List String}
    {modifiers : Chain} (hscope : scope.Sound) (hf : f.Proper)
    (hextras : ∀ call ∈ extras, Neutral call)
    (h : (chain scope kind f extras).result = .ok modifiers) : modifiers.Sound := by
  obtain ⟨ties, hties, weight, hweight, margin, hmargin, alpha, halpha, padding, hpadding, rfl⟩ :=
    chain_eq_ok_iff.mp h
  have halign : ∀ call ∈
      (childAlignment? scope f.gravity).toList.map fun a => "align(" ++ a ++ ")",
      Neutral call := by
    intro call hcall
    obtain ⟨a, ha, rfl⟩ := List.mem_map.mp hcall
    have ha : Neutral a := childAlignment_neutral _ _ a (Option.mem_toList.mp ha)
    exact .within ['('] (by decide) ha (by decide)
  simp only [Chain.Sound, List.forall_mem_append]
  exact ⟨⟨⟨⟨⟨⟨⟨⟨⟨constrainCalls_neutral hscope hties, weightCalls_neutral hweight⟩, halign⟩,
    marginCalls_neutral hf hmargin⟩, frameSizeCalls_neutral hf⟩, alphaCalls_neutral halpha⟩,
    backgroundCalls_neutral hf⟩, paddingCalls_neutral hf hpadding⟩, hextras⟩,
    semanticsCalls_neutral hf⟩

end Compose

end LayoutCompose
