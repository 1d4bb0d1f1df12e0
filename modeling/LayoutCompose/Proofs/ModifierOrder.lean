import LayoutCompose.Proofs.CompactCalls
import LayoutCompose.Proofs.ViewCode

/-!
The order of modifiers.

The modifiers of a view come in stages, from the ties that hold it in place to its description. Most
stages give one call if the view asks for it and none otherwise; here the conditions are written
out, for every kind of view and every scope. A chain without calls is left out of the arguments.
-/

namespace LayoutCompose.Compose

open Kotlin (Call Chain)

/-! ### Stages -/

/-- The modifiers of a view, stage by stage. -/
structure Stages where
  ties : List String
  weight : List String
  align : List String
  margin : List String
  size : List String
  alpha : List String
  background : List String
  padding : List String
  extras : List String
  semantics : List String

def Stages.calls (s : Stages) : List String :=
  s.ties ++ s.weight ++ s.align ++ s.margin ++ s.size ++ s.alpha ++ s.background ++ s.padding ++
    s.extras ++ s.semantics

/-- A stage has one call if a condition holds, and none otherwise. -/
structure OneIf (condition : Prop) (spec : String → Prop) (calls : List String) : Prop where
  one : condition → ∃ call, calls = [call] ∧ spec call
  none : ¬condition → calls = []

/-- The reference of a view in a constraint group. -/
def Scope.reference? : Scope → Option String
  | .constraint _ own => own
  | _ => none

def TakesRoom (e : Edges) : Prop :=
  ∃ side ∈ e.sides, ∃ d ∈ side, d.isZero = false

/-- A view asks for another place than the usual one, and the scope has places to give. -/
def IsPlaced (g : Gravity) : Scope → Prop
  | .row => g.vertical = some .center ∨ g.vertical = some .bottom
  | .column => g.horizontal = some .center ∨ g.horizontal = some .trailing
  | .box => ¬(g.vertical.getD .top = .top ∧ g.horizontal.getD .leading = .leading)
  | _ => False

/-- An extent, except that a zero is given up where the parent decides. -/
def leftTo (parent : Prop) [Decidable parent] (extent : Extent) : Extent :=
  if parent ∧ extent.isZero = true then .wrap else extent

/-- The tie of a view to the reference that its scope has for it. -/
def IsTie (scope : Scope) (f : Frame) (call : String) : Prop :=
  ∃ ids name block, scope = .constraint ids (some name) ∧ constrainCall ids name f = .ok call ∧
    call = "constrainAs(" ++ name ++ ") " ++ block

def IsAlign (scope : Scope) (g : Gravity) (call : String) : Prop :=
  ∃ place, childAlignment? scope g = some place ∧ call = "align(" ++ place ++ ")"

/-- A color is filled in, and an image is painted. -/
def IsBackground (background : Option Drawable) (call : String) : Prop :=
  (∃ color, background = some (.color color) ∧
      call = "background(" ++ color.expression ++ ")") ∨
    ∃ image, background = some (.resource image) ∧
      call = "paint(painterResource(id = " ++ image.constant ++
        "), contentScale = ContentScale.FillBounds)"

def IsSemantics (description : Option Caption) (call : String) : Prop :=
  ∃ caption, description = some caption ∧
    call = "semantics \x7b contentDescription = " ++ caption.expression ++ " \x7d"

/-- What the stages hold for a view with these properties. -/
structure Stages.Of (scope : Scope) (kind : Kind) (f : Frame) (extras : List String)
    (s : Stages) : Prop where
  ties : OneIf (scope.reference? ≠ none) (IsTie scope f) s.ties
  weight : OneIf (Single.zero.lt f.weight = true)
    (· = "weight(" ++ Kotlin.floatLiteral f.weight ++ ")") s.weight
  align : OneIf (IsPlaced f.gravity scope) (IsAlign scope f.gravity) s.align
  margin : OneIf (TakesRoom f.margin) (paddingCall? f.margin = some ·) s.margin
  size : s.size = sizeCalls
    (leftTo (scope.reference? ≠ none ∨ scope = .row ∧ Single.zero.lt f.weight = true) f.width)
    (leftTo (scope.reference? ≠ none ∨ scope = .column ∧ Single.zero.lt f.weight = true) f.height)
  alpha : OneIf (f.visibility = .invisible ∨ f.alpha.lt Single.one = true)
    (· = if f.visibility = .invisible then "alpha(0f)"
      else "alpha(" ++ Kotlin.floatLiteral f.alpha ++ ")") s.alpha
  background : OneIf (f.background ≠ none) (IsBackground f.background) s.background
  padding : OneIf (TakesRoom f.padding) (paddingCall? f.padding = some ·) s.padding
  extras : s.extras = extras
  semantics : OneIf (f.description ≠ none ∧ kind ≠ .image) (IsSemantics f.description) s.semantics

/-! ### What each stage gives -/

namespace OneIf

variable {condition : Prop} {spec : String → Prop}

theorem singleton {call : String} (h : condition) (hspec : spec call) :
    OneIf condition spec [call] :=
  ⟨fun _ => ⟨call, rfl, hspec⟩, fun hno => absurd h hno⟩

theorem nil (h : ¬condition) : OneIf condition spec [] :=
  ⟨fun hyes => absurd hyes h, fun _ => rfl⟩

theorem toList {call? : Option String} (h : condition ↔ call? ≠ Option.none)
    (hspec : ∀ call ∈ call?, spec call) : OneIf condition spec call?.toList := by
  cases call? with
  | none => exact nil fun hyes => h.mp hyes rfl
  | some call => exact singleton (h.mpr (Option.some_ne_none call)) (hspec call rfl)

end OneIf

variable {scope : Scope} {kind : Kind} {f : Frame} {calls : List String}

theorem constrainCalls_oneIf (h : (constrainCalls scope kind f).result = .ok calls) :
    OneIf (scope.reference? ≠ none) (IsTie scope f) calls := by
  unfold constrainCalls at h
  split at h
  · rename_i ids name
    simp only [Noted.result_bind, Outcome.Except_bind_eq_ok, Noted.result_of, Noted.result_pure,
      Except.ok.injEq] at h
    obtain ⟨call, hcall, rfl⟩ := h
    have htext := hcall
    simp only [constrainCall, Outcome.bind_eq_ok, Outcome.pure_eq_ok] at htext
    obtain ⟨texts, -, htext⟩ := htext
    exact .singleton (Option.some_ne_none name) ⟨ids, name, _, rfl, hcall, htext.symm⟩
  · obtain rfl := Except.ok.inj h
    exact .nil fun hne => hne rfl
  · rename_i hscope hnone
    have hreference : scope.reference? = none := by
      cases scope with
      | constraint ids own =>
          cases own with
          | none => rfl
          | some name => exact absurd rfl (hscope ids name)
      | _ => rfl
    split at h
    · obtain rfl := Except.ok.inj h
      exact .nil fun hne => hne hreference
    · obtain rfl := Except.ok.inj h
      exact .nil fun hne => hne hreference

theorem weightCalls_oneIf (h : weightCalls scope f = .ok calls) :
    OneIf (Single.zero.lt f.weight = true)
      (· = "weight(" ++ Kotlin.floatLiteral f.weight ++ ")") calls := by
  unfold weightCalls at h
  split at h
  · rename_i hweight
    split at h
    · obtain rfl := Except.ok.inj h
      exact .singleton hweight rfl
    · obtain rfl := Except.ok.inj h
      exact .singleton hweight rfl
    · cases h
  · rename_i hweight
    obtain rfl := Except.ok.inj h
    exact .nil hweight

theorem isPlaced_iff (g : Gravity) (scope : Scope) :
    IsPlaced g scope ↔ childAlignment? scope g ≠ none := by
  obtain ⟨horizontal, vertical⟩ := g
  cases scope with
  | row => rcases vertical with _ | (_ | _ | _) <;> simp [IsPlaced, childAlignment?, rowAlignment?]
  | column =>
      rcases horizontal with _ | (_ | _ | _) <;> simp [IsPlaced, childAlignment?, columnAlignment?]
  | box =>
      rcases horizontal with _ | (_ | _ | _) <;> rcases vertical with _ | (_ | _ | _) <;>
        simp [IsPlaced, childAlignment?, boxAlignment?]
  | _ => simp [IsPlaced, childAlignment?]

theorem align_oneIf (g : Gravity) : OneIf (IsPlaced g scope) (IsAlign scope g)
    ((childAlignment? scope g).toList.map fun place => "align(" ++ place ++ ")") := by
  rw [← Option.toList_map]
  refine .toList ?_ fun call hcall => ?_
  · rw [isPlaced_iff, ne_eq, ne_eq, Option.map_eq_none_iff]
  · obtain ⟨place, hplace, rfl⟩ := Option.map_eq_some_iff.mp hcall
    exact ⟨place, hplace, rfl⟩

theorem takesRoom_iff_isEmpty (e : Edges) : TakesRoom e ↔ ¬e.isEmpty = true := by
  have hside (side : Option Dimension) :
      (∃ d ∈ side, d.isZero = false) ↔ ¬side.all Dimension.isZero = true := by
    cases side <;> simp
  simp only [TakesRoom, hside, Edges.isEmpty, List.all_eq_true, not_forall, exists_prop]

theorem eq_none_of_sameSide {side : Option Dimension} (h : sameSide none side = true) :
    side = none := by
  cases side with
  | none => rfl
  | some d => cases h

/-- An inset is written exactly if some side takes room. -/
theorem takesRoom_iff (e : Edges) : TakesRoom e ↔ paddingCall? e ≠ none := by
  rw [takesRoom_iff_isEmpty]
  by_cases hempty : e.isEmpty = true
  · simp [paddingCall?, hempty]
  · refine iff_of_true hempty ?_
    unfold paddingCall?
    dsimp only
    rw [if_neg hempty]
    split
    · rename_i hsame
      simp only [Bool.and_eq_true] at hsame
      obtain ⟨⟨htop, htrailing⟩, hbottom⟩ := hsame
      cases hleading : e.leading.filter fun d => !d.isZero with
      | some d => simp
      | none =>
          rw [hleading] at htop
          have htop := eq_none_of_sameSide htop
          rw [htop] at htrailing
          have htrailing := eq_none_of_sameSide htrailing
          rw [htrailing] at hbottom
          have hbottom := eq_none_of_sameSide hbottom
          refine absurd (isEmpty_iff.mpr ?_) hempty
          simp [Edges.essential, hleading, htop, htrailing, hbottom]
    · exact Option.some_ne_none _

theorem paddingCall?_oneIf (e : Edges) :
    OneIf (TakesRoom e) (paddingCall? e = some ·) (paddingCall? e).toList :=
  .toList (takesRoom_iff e) fun _ => id

theorem marginCalls_oneIf (h : marginCalls f = .ok calls) :
    OneIf (TakesRoom f.margin) (paddingCall? f.margin = some ·) calls := by
  unfold marginCalls at h
  split at h
  · cases h
  · obtain rfl := Except.ok.inj h
    exact paddingCall?_oneIf f.margin

theorem paddingCalls_oneIf (h : paddingCalls f = .ok calls) :
    OneIf (TakesRoom f.padding) (paddingCall? f.padding = some ·) calls := by
  unfold paddingCalls at h
  split at h
  · cases h
  · obtain rfl := Except.ok.inj h
    exact paddingCall?_oneIf f.padding

theorem frameSizeCalls_eq (scope : Scope) (f : Frame) : frameSizeCalls scope f = sizeCalls
    (leftTo (scope.reference? ≠ none ∨ scope = .row ∧ Single.zero.lt f.weight = true) f.width)
    (leftTo (scope.reference? ≠ none ∨ scope = .column ∧ Single.zero.lt f.weight = true)
      f.height) := by
  rcases scope with _ | _ | _ | _ | _ | ⟨ids, _ | name⟩ <;>
    simp [frameSizeCalls, isStretched, leftTo, Scope.reference?]

theorem alphaCalls_oneIf (h : alphaCalls f = .ok calls) :
    OneIf (f.visibility = .invisible ∨ f.alpha.lt Single.one = true)
      (· = if f.visibility = .invisible then "alpha(0f)"
        else "alpha(" ++ Kotlin.floatLiteral f.alpha ++ ")") calls := by
  unfold alphaCalls at h
  split at h
  · cases h
  split at h
  · rename_i hinvisible
    obtain rfl := Except.ok.inj h
    exact .singleton (.inl hinvisible) (if_pos hinvisible).symm
  rename_i hvisible
  split at h
  · rename_i hlt
    obtain rfl := Except.ok.inj h
    exact .singleton (.inr hlt) (if_neg hvisible).symm
  · rename_i hfull
    obtain rfl := Except.ok.inj h
    exact .nil (not_or.mpr ⟨hvisible, hfull⟩)

theorem backgroundCalls_oneIf (f : Frame) :
    OneIf (f.background ≠ none) (IsBackground f.background) (backgroundCalls f) := by
  unfold backgroundCalls
  split
  · rename_i color hcolor
    exact .singleton (hcolor ▸ Option.some_ne_none _) (.inl ⟨color, hcolor, rfl⟩)
  · rename_i image himage
    exact .singleton (himage ▸ Option.some_ne_none _) (.inr ⟨image, himage, rfl⟩)
  · rename_i hnone
    exact .nil fun hne => hne hnone

theorem semanticsCalls_oneIf (kind : Kind) (f : Frame) :
    OneIf (f.description ≠ none ∧ kind ≠ .image) (IsSemantics f.description)
      (semanticsCalls kind f) := by
  unfold semanticsCalls
  split
  · rename_i description hdescription
    split
    · rename_i himage
      exact .nil fun hyes => hyes.2 himage
    · rename_i hother
      exact .singleton ⟨hdescription ▸ Option.some_ne_none _, hother⟩
        ⟨description, hdescription, rfl⟩
  · rename_i hnone
    exact .nil fun hyes => hyes.1 hnone

/-! ### The chain -/

theorem foldl_calls (calls : List String) (text : String) :
    calls.foldl (fun text call => text ++ "." ++ call) text =
      text ++ String.join (calls.map ("." ++ ·)) := by
  induction calls generalizing text with
  | nil => simp
  | cons call calls ih =>
      rw [List.foldl_cons, ih, List.map_cons, String.join_cons]
      simp only [String.append_assoc]

theorem text?_eq (modifiers : Chain) : modifiers.text? =
    if modifiers.calls = [] then none
    else some ("Modifier" ++ String.join (modifiers.calls.map ("." ++ ·))) := by
  obtain ⟨calls⟩ := modifiers
  cases calls with
  | nil => rfl
  | cons call calls => exact congrArg some (foldl_calls _ _)

/-- Modifiers are an argument of a call, unless there are none. -/
theorem arguments_modified (call : Call) (modifiers : Chain) :
    (call.modified modifiers).arguments = call.arguments ++
      if modifiers.calls = [] then []
      else ["modifier = Modifier" ++ String.join (modifiers.calls.map ("." ++ ·))] := by
  rw [Call.modified, text?_eq]
  split
  · exact (List.append_nil _).symm
  · simp [Call.argOf, Call.arg, ← String.append_assoc]

/-- A view that only takes room has its modifiers as an argument even if there are none. -/
theorem plainLine_result {modifiers : Chain}
    (h : (chain scope .plain f []).result = .ok modifiers) :
    (plainLine scope f).result = .ok ("Spacer(modifier = Modifier" ++
      String.join (modifiers.calls.map ("." ++ ·)) ++ ")") := by
  have htext : modifiers.text?.getD "Modifier" =
      "Modifier" ++ String.join (modifiers.calls.map ("." ++ ·)) := by
    rw [text?_eq]
    split
    · rename_i hnone
      simp [hnone]
    · rfl
  have hcall : ∀ value, (({ name := "Spacer" } : Call).arg "modifier" value).text =
      "Spacer(modifier = " ++ value ++ ")" := by
    intro value
    simp [Call.text, Call.arg, ← String.append_assoc]
  rw [plainLine, Noted.result_bind, h]
  change Except.ok (Call.text _) = _
  rw [hcall, htext, ← String.append_assoc]
  rfl

/-- The modifiers of a view stand in a fixed order, each of them exactly if the view asks for it,
with nothing else between them. They are an argument of its call unless there are none; only a view
that has no content is always given the argument. -/
theorem chain_in_order {extras : List String} {modifiers : Chain}
    (h : (chain scope kind f extras).result = .ok modifiers) :
    (∃ s : Stages, s.Of scope kind f extras ∧ modifiers.calls = s.calls) ∧
      (∀ call : Call, (call.modified modifiers).arguments = call.arguments ++
        if modifiers.calls = [] then []
        else ["modifier = Modifier" ++ String.join (modifiers.calls.map ("." ++ ·))]) ∧
      (kind = .plain → extras = [] → (plainLine scope f).result = .ok
        ("Spacer(modifier = Modifier" ++ String.join (modifiers.calls.map ("." ++ ·)) ++ ")")) := by
  refine ⟨?_, fun call => arguments_modified call modifiers, ?_⟩
  · obtain ⟨ties, hties, weight, hweight, margin, hmargin, alpha, halpha, padding, hpadding, rfl⟩ :=
      chain_eq_ok_iff.mp h
    exact ⟨⟨ties, weight, _, margin, frameSizeCalls scope f, alpha, backgroundCalls f, padding,
        extras, semanticsCalls kind f⟩,
      { ties := constrainCalls_oneIf hties
        weight := weightCalls_oneIf hweight
        align := align_oneIf f.gravity
        margin := marginCalls_oneIf hmargin
        size := frameSizeCalls_eq scope f
        alpha := alphaCalls_oneIf halpha
        background := backgroundCalls_oneIf f
        padding := paddingCalls_oneIf hpadding
        extras := rfl
        semantics := semanticsCalls_oneIf kind f }, rfl⟩
  · rintro rfl rfl
    exact plainLine_result h

/-- An invisible view in a constraint group, with most of the stages. -/
theorem chain_in_order_constrained :
    let eight := Dimension.dp (Single.ofNat 8)
    let f : Frame :=
      { width := .fixed (.dp Single.zero), height := .fill, margin := { top := some eight },
        padding := .uniform eight, background := some (.color (.theme .surface)),
        visibility := .invisible, description := some (.literal "Sizes") }
    let scope := Scope.constraint [] (some "ref0")
    let modifiers : Chain := ⟨[
      "constrainAs(ref0) \x7b width = Dimension.fillToConstraints \x7d", "padding(top = 8.dp)",
      "fillMaxHeight()", "alpha(0f)", "background(MaterialTheme.colors.surface)",
      "padding(8.dp)", "selectableGroup()", "semantics \x7b contentDescription = \"Sizes\" \x7d"]⟩
    (chain scope .radioGroup f ["selectableGroup()"]).result = .ok modifiers ∧
      ∃ s : Stages, s.Of scope .radioGroup f ["selectableGroup()"] ∧ modifiers.calls = s.calls := by
  intro eight f scope modifiers
  have hchain : (chain scope .radioGroup f ["selectableGroup()"]).result = .ok modifiers := by
    decide +kernel
  exact ⟨hchain, (chain_in_order hchain).1⟩

end LayoutCompose.Compose
