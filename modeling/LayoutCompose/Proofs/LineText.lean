import LayoutCompose.Proofs.ModifierText

/-!
The text of lines.

A line is a call with modifiers and other arguments, possibly with more calls in a block behind
it. So the line of a control can stand by itself, and so can the line that opens a group and
those that declare its references.
-/

namespace LayoutCompose.Compose

open Kotlin (Call Chain IsLine Neutral Piece Turns)

/-! ### Controls -/

theorem neutral_map {α : Type} {o : Option α} {f : α → String} (h : ∀ a ∈ o, Neutral (f a)) :
    ∀ text ∈ o.map f, Neutral text := by
  intro text htext
  obtain ⟨a, ha, rfl⟩ := Option.map_eq_some_iff.mp htext
  exact h a ha

theorem neutral_constant? {value : String} (h : Neutral value) (condition : Bool) :
    ∀ text ∈ constant? condition value, Neutral text := by
  cases condition with
  | true => exact neutral_some h
  | false => exact nofun

theorem lineLimit_neutral {limit : Option Nat} {text? : Option String}
    (h : lineLimit limit = .ok text?) : ∀ text ∈ text?, Neutral text := by
  unfold lineLimit at h
  split at h
  · exact nomatch h
  · obtain rfl := Except.ok.inj h
    exact neutral_map fun n _ => Kotlin.neutral_nat n

theorem textAlign_neutral (align : Option Horizontal) :
    ∀ text ∈ textAlign? align, Neutral text := by
  rcases align with _ | _ | _ | _ <;> decide

section TextProps

variable {props : TextProps} (hprops : props.Proper)
include hprops

theorem textColor_neutral : ∀ text ∈ props.color.map Color.expression, Neutral text :=
  neutral_map fun c hc => c.neutral_expression (hprops.color c hc)

theorem textSize_neutral : ∀ text ∈ props.size.map Dimension.spExpression, Neutral text :=
  neutral_map fun d hd => d.neutral_spExpression (hprops.size d hd)

theorem textFont_neutral : ∀ text ∈ props.font.map Font.expression, Neutral text :=
  neutral_map fun f hf => f.neutral_expression (hprops.font f hf)

theorem textArguments_sound {call call' : Call} (hcall : call.Sound)
    (h : textArguments call props = .ok call') : call'.Sound := by
  simp only [textArguments, Outcome.bind_eq_ok, Outcome.pure_eq_ok] at h
  obtain ⟨limit, hlimit, rfl⟩ := h
  exact hcall
    |>.argOf (by decide) (textColor_neutral hprops)
    |>.argOf (by decide) (textSize_neutral hprops)
    |>.argOf (by decide) (neutral_constant? (.literal (by decide)) _)
    |>.argOf (by decide) (neutral_constant? (.literal (by decide)) _)
    |>.argOf (by decide) (textFont_neutral hprops)
    |>.argOf (by decide) (textAlign_neutral _)
    |>.argOf (by decide) (lineLimit_neutral hlimit)

theorem fieldStyle_sound : (fieldStyle props).Sound :=
  Call.Sound.named (by decide) (by decide)
    |>.argOf (by decide) (textColor_neutral hprops)
    |>.argOf (by decide) (textSize_neutral hprops)
    |>.argOf (by decide) (neutral_constant? (.literal (by decide)) _)
    |>.argOf (by decide) (neutral_constant? (.literal (by decide)) _)
    |>.argOf (by decide) (textFont_neutral hprops)
    |>.argOf (by decide) (textAlign_neutral _)

end TextProps

theorem keyboardOptions_neutral (input : InputType) :
    ∀ text ∈ (keyboardType? input).map fun k =>
      "KeyboardOptions(keyboardType = KeyboardType." ++ k ++ ")", Neutral text := by
  refine neutral_map fun k hk => ?_
  have hkeyboard (keyboard : Keyboard) : Neutral (keyboardName keyboard) := by
    cases keyboard <;> exact .literal (by decide)
  have hname : Neutral k := by
    unfold keyboardType? at hk
    split at hk
    · obtain rfl := Option.some.inj hk
      split <;> exact .literal (by decide)
    · obtain ⟨keyboard, -, rfl⟩ := Option.map_eq_some_iff.mp hk
      exact hkeyboard keyboard
  exact .within ['('] (by decide) hname (by decide)

theorem contentScale_neutral (scaling : Scaling) :
    ∀ text ∈ contentScale? scaling, Neutral text := by
  cases scaling <;> decide

theorem toggleCall_sound (form : ToggleForm) (checked : Bool) :
    (toggleCall form checked).Sound := by
  have hstate : Neutral (if checked then "true" else "false") := by
    split <;> exact .literal (by decide)
  cases form <;>
    exact (Call.Sound.named (by decide) (by decide)).arg (by decide) hstate
      |>.arg (by decide) (.literal (by decide))

theorem valueRange_neutral (t : Track) : ∀ text ∈ valueRange? t, Neutral text := by
  intro text htext
  unfold valueRange? at htext
  split at htext
  · exact nomatch htext
  · obtain rfl := Option.some.inj htext
    exact Kotlin.neutral_floatSpan t.lower t.upper

theorem sliderCall_sound {name value : String} {modifiers : Chain} (f : Frame) (t : Track)
    (stops : Option Int) (hname : IsLine name) (hvalue : Neutral value)
    (hchain : modifiers.Sound) : (sliderCall name value modifiers f t stops).Sound :=
  Call.Sound.of_name hname
    |>.arg (by decide) hvalue
    |>.arg (by decide) (.literal (by decide))
    |>.modified hchain
    |>.enabled f.enabled
    |>.argOf (by decide) (valueRange_neutral t)
    |>.argOf (by decide) (neutral_map fun n _ => Kotlin.neutral_int n)

theorem inclusionLine_isLine {f : Frame} {layout : Reference} {line : String}
    (h : (inclusionLine f layout).result = .ok line) : IsLine line := by
  have hline : Kotlin.functionName layout.name ++ "()" = line := by
    unfold inclusionLine at h
    split at h
    · exact Except.ok.inj h
    · exact Except.ok.inj h
  rw [← hline]
  exact (Kotlin.isLine_functionName layout.name).append (.literal (by decide))

section Lines

variable {scope : Scope} {f : Frame} {line : String} (hscope : scope.Sound) (hf : f.Proper)
include hscope hf

theorem textLine_isLine {props : TextProps} (hprops : props.Proper)
    (h : (textLine scope f props).result = .ok line) : IsLine line := by
  simp only [textLine, blame, Noted.result_bind, Outcome.Except_bind_eq_ok, Noted.result_of,
    Outcome.mapError_eq_ok, Noted.result_pure, Except.ok.injEq] at h
  obtain ⟨modifiers, hmodifiers, call, hcall, rfl⟩ := h
  refine (textArguments_sound hprops ?_ hcall).text
  exact Call.Sound.named (by decide) (by decide)
    |>.arg (by decide) (props.text.neutral_expression hprops.text)
    |>.modified (chain_sound hscope hf (by simp) hmodifiers)

theorem buttonLine_isLine {props : TextProps} (hprops : props.Proper)
    (h : (buttonLine scope f props).result = .ok line) : IsLine line := by
  simp only [buttonLine, blame, Noted.result_bind, Outcome.Except_bind_eq_ok, Noted.result_of,
    Outcome.mapError_eq_ok, Noted.result_pure, Except.ok.injEq] at h
  obtain ⟨modifiers, hmodifiers, text, htext, rfl⟩ := h
  refine .block (Call.Sound.text ?_) (textArguments_sound hprops ?_ htext).text.neutral
  · exact Call.Sound.named (by decide) (by decide)
      |>.arg (by decide) (.literal (by decide))
      |>.modified (chain_sound hscope hf (by simp) hmodifiers)
      |>.enabled f.enabled
  · exact Call.Sound.named (by decide) (by decide)
      |>.arg (by decide) (props.text.neutral_expression hprops.text)

theorem fieldLine_isLine {props : TextProps} {hint : Option Caption} {input : InputType}
    {singleLine : Bool} (hprops : props.Proper) (hhint : ∀ c ∈ hint, c.Proper)
    (h : (fieldLine scope f props hint input singleLine).result = .ok line) : IsLine line := by
  simp only [fieldLine, blame, Noted.result_bind, Outcome.Except_bind_eq_ok, Noted.result_of,
    Outcome.mapError_eq_ok, Noted.result_pure, Except.ok.injEq] at h
  obtain ⟨modifiers, hmodifiers, limit, hlimit, rfl⟩ := h
  have hstyle : Neutral (fieldStyle props).text := (fieldStyle_sound hprops).text.neutral
  have hplaceholder : ∀ text ∈ hint.map fun h => "\x7b Text(text = " ++ h.expression ++ ") \x7d",
      Neutral text := by
    refine neutral_map fun c hc => ?_
    have hcaption : Neutral c.expression := c.neutral_expression (hhint c hc)
    exact .within ['(', '\x7b'] (by decide) hcaption (by decide)
  refine Call.Sound.text ?_
  exact Call.Sound.named (by decide) (by decide)
    |>.arg (by decide) (props.text.neutral_expression hprops.text)
    |>.arg (by decide) (.literal (by decide))
    |>.modified (chain_sound hscope hf (by simp) hmodifiers)
    |>.enabled f.enabled
    |>.argOf (by decide) (neutral_constant? hstyle _)
    |>.argOf (by decide) hplaceholder
    |>.argOf (by decide) (neutral_constant? (.literal (by decide)) _)
    |>.argOf (by decide) (keyboardOptions_neutral input)
    |>.argOf (by decide) (neutral_constant? (.literal (by decide)) _)
    |>.argOf (by decide) (lineLimit_neutral hlimit)

theorem imageLine_isLine {source : Reference} {scaling : Scaling}
    (hsource : source.IsOf ["drawable", "mipmap"])
    (h : (imageLine scope f source scaling).result = .ok line) : IsLine line := by
  simp only [imageLine, Noted.result_bind, Outcome.Except_bind_eq_ok, Noted.result_pure,
    Except.ok.injEq] at h
  obtain ⟨modifiers, hmodifiers, rfl⟩ := h
  have hpainter : Neutral ("painterResource(id = " ++ source.constant ++ ")") :=
    .within ['('] (by decide) (source.neutral_constant hsource (by decide)) (by decide)
  have hdescription : Neutral ((f.description.map Caption.expression).getD "null") := by
    cases hd : f.description with
    | none => exact Piece.literal (by decide)
    | some d => exact d.neutral_expression (hf.description d hd)
  refine Call.Sound.text ?_
  exact Call.Sound.named (by decide) (by decide)
    |>.arg (by decide) hpainter
    |>.arg (by decide) hdescription
    |>.modified (chain_sound hscope hf (by simp) hmodifiers)
    |>.argOf (by decide) (contentScale_neutral scaling)

theorem toggleLine_isLine {form : ToggleForm} {label : Caption} {checked : Bool}
    (hlabel : label.Proper) (h : (toggleLine scope f form label checked).result = .ok line) :
    IsLine line := by
  simp only [toggleLine, Noted.result_bind, Outcome.Except_bind_eq_ok] at h
  obtain ⟨modifiers, hmodifiers, h⟩ := h
  have hchain : modifiers.Sound := chain_sound hscope hf (by simp) hmodifiers
  have hcall := toggleCall_sound form checked
  split at h
  · obtain rfl := Except.ok.inj h
    exact ((hcall.modified hchain).enabled f.enabled).text
  · obtain rfl := Except.ok.inj h
    have hrow : (({ name := "Row" } : Call).modified modifiers
        |>.arg "verticalAlignment" "Alignment.CenterVertically").Sound :=
      Call.Sound.named (by decide) (by decide)
        |>.modified hchain
        |>.arg (by decide) (.literal (by decide))
    have htext : (({ name := "Text" } : Call).arg "text" label.expression).Sound :=
      Call.Sound.named (by decide) (by decide)
        |>.arg (by decide) (label.neutral_expression hlabel)
    have hseparator : Neutral "; " := .literal (by decide)
    have hbody := ((hcall.enabled f.enabled).text.neutral.append hseparator).append
      htext.text.neutral
    simpa only [String.append_assoc] using hrow.text.block hbody

theorem sliderLine_isLine {t : Track} {value : Option Single}
    (h : (sliderLine scope f t value).result = .ok line) : IsLine line := by
  simp only [sliderLine, Noted.result_bind, Outcome.Except_bind_eq_ok] at h
  obtain ⟨stops, -, h⟩ := h
  split at h
  · cases h
  · simp only [Noted.result_bind, Outcome.Except_bind_eq_ok, Noted.result_pure,
      Except.ok.injEq] at h
    obtain ⟨modifiers, hmodifiers, rfl⟩ := h
    have hchain : modifiers.Sound := chain_sound hscope hf (by simp) hmodifiers
    exact (sliderCall_sound f t stops (.literal (by decide) (by decide))
      (Kotlin.neutral_floatLiteral _) hchain).text

theorem rangeSliderLine_isLine {t : Track} {values : Option Span}
    (h : (rangeSliderLine scope f t values).result = .ok line) : IsLine line := by
  simp only [rangeSliderLine, Noted.result_bind, Outcome.Except_bind_eq_ok] at h
  obtain ⟨stops, -, h⟩ := h
  split at h
  · cases h
  · simp only [Noted.result_bind, Outcome.Except_bind_eq_ok, Noted.result_pure,
      Except.ok.injEq] at h
    obtain ⟨modifiers, hmodifiers, rfl⟩ := h
    have hchain : modifiers.Sound := chain_sound hscope hf (by simp) hmodifiers
    exact (sliderCall_sound f t stops (.literal (by decide) (by decide))
      (Kotlin.neutral_floatSpan _ _) hchain).text

theorem plainLine_isLine (h : (plainLine scope f).result = .ok line) : IsLine line := by
  simp only [plainLine, Noted.result_bind, Outcome.Except_bind_eq_ok, Noted.result_pure,
    Except.ok.injEq] at h
  obtain ⟨modifiers, hmodifiers, rfl⟩ := h
  have hchain : modifiers.Sound := chain_sound hscope hf (by simp) hmodifiers
  have hmodifier : Neutral (modifiers.text?.getD "Modifier") := by
    cases htext : modifiers.text? with
    | none => exact Piece.literal (by decide)
    | some text => exact hchain.text text htext
  exact ((Call.Sound.named (by decide) (by decide)).arg (by decide) hmodifier).text

/-- The line of a control can stand as it is. -/
theorem controlLine_isLine {c : Control} (hc : c.Proper)
    (h : (controlLine scope f c).result = .ok line) : IsLine line := by
  cases c with
  | text props => exact textLine_isLine hscope hf hc h
  | button props => exact buttonLine_isLine hscope hf hc h
  | field props hint input singleLine => exact fieldLine_isLine hscope hf hc.1 hc.2 h
  | image source scaling => exact imageLine_isLine hscope hf hc h
  | toggle form label checked => exact toggleLine_isLine hscope hf hc h
  | rangeSlider t values => exact rangeSliderLine_isLine hscope hf h
  | slider t value => exact sliderLine_isLine hscope hf h
  | plain => exact plainLine_isLine hscope hf h
  | inclusion layout => exact inclusionLine_isLine h

end Lines

/-! ### Groups -/

theorem groupExtras_neutral (g : Group) : ∀ call ∈ groupExtras g, Neutral call := by
  cases g with
  | radioGroup gravity orientation =>
      exact List.forall_mem_singleton.mpr (.literal (by decide))
  | scroll horizontal =>
      refine List.forall_mem_singleton.mpr ?_
      cases horizontal <;> exact Piece.literal (by decide)
  | _ => exact nofun

theorem rowCall_sound {modifiers : Chain} (h : modifiers.Sound) (g : Gravity) :
    (rowCall modifiers g).Sound := by
  refine Call.Sound.named (by decide) (by decide)
    |>.modified h
    |>.argOf (by decide) ?_
    |>.argOf (by decide) (rowAlignment_neutral _)
  split <;> decide

theorem columnCall_sound {modifiers : Chain} (h : modifiers.Sound) (g : Gravity) :
    (columnCall modifiers g).Sound := by
  refine Call.Sound.named (by decide) (by decide)
    |>.modified h
    |>.argOf (by decide) ?_
    |>.argOf (by decide) (columnAlignment_neutral _)
  split <;> decide

theorem linearCall_sound {modifiers : Chain} (h : modifiers.Sound) (g : Gravity)
    (orientation : Orientation) : (linearCall modifiers g orientation).Sound := by
  cases orientation with
  | horizontal => exact rowCall_sound h g
  | vertical => exact columnCall_sound h g

theorem cardCall_sound {modifiers : Chain} {corner elevation : Option Dimension}
    {color : Option Color} (h : modifiers.Sound) (hcorner : ∀ d ∈ corner, d.Proper)
    (hcolor : ∀ c ∈ color, c.Proper) (helevation : ∀ d ∈ elevation, d.Proper) :
    (cardCall modifiers corner color elevation).Sound := by
  have hshape : ∀ text ∈ corner.map fun r => "RoundedCornerShape(" ++ r.dpExpression ++ ")",
      Neutral text := by
    refine neutral_map fun r hr => ?_
    exact .within ['('] (by decide) (r.neutral_dpExpression (hcorner r hr)) (by decide)
  exact Call.Sound.named (by decide) (by decide)
    |>.modified h
    |>.argOf (by decide) hshape
    |>.argOf (by decide) (neutral_map fun c hc => c.neutral_expression (hcolor c hc))
    |>.argOf (by decide) (neutral_map fun d hd => d.neutral_dpExpression (helevation d hd))

theorem groupCall_sound {modifiers : Chain} {g : Group} (h : modifiers.Sound) (hg : g.Proper) :
    (groupCall modifiers g).Sound := by
  cases g with
  | row gravity => exact rowCall_sound h gravity
  | column gravity => exact columnCall_sound h gravity
  | box gravity =>
      exact Call.Sound.named (by decide) (by decide)
        |>.modified h
        |>.argOf (by decide) (boxAlignment_neutral gravity)
  | linear gravity orientation => exact linearCall_sound h gravity orientation
  | radioGroup gravity orientation => exact linearCall_sound h gravity orientation
  | card corner color elevation => exact cardCall_sound h hg.1 hg.2.1 hg.2.2
  | scroll horizontal => exact linearCall_sound h {} (scrollOrientation horizontal)
  | constraint => exact (Call.Sound.named (by decide) (by decide)).modified h

theorem declaration_isLine {name : String} (h : Neutral name) : IsLine (declaration name) := by
  have hval : IsLine "val " := .literal (by decide) (by decide)
  exact (hval.append h).append (.literal (by decide))

theorem declarations_isLine {g : Group} {children : List View}
    (hids : ∀ v ∈ children, ∀ id ∈ v.id, Text.isName id.toList = true) :
    ∀ text ∈ (groupReferences children g).map declaration, IsLine text := by
  intro text htext
  obtain ⟨name, hname, rfl⟩ := List.mem_map.mp htext
  cases g with
  | constraint =>
      obtain ⟨own, hown, hname⟩ := List.mem_filterMap.mp hname
      exact declaration_isLine (References.neutral_names_given hids own hown name hname)
  | _ => exact nomatch hname

end LayoutCompose.Compose
