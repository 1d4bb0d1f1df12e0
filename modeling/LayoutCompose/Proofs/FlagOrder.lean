import LayoutCompose.Proofs.Places
import LayoutCompose.Value.Flags

/-!
The order of flags.

Whether a flag is accepted does not depend on the flags before it, and what it does to the value is
a step that always succeeds. So a text is refused for one of its flags, wherever that stands, and
otherwise its value is that of the steps one after the other. Two steps that do not conflict can
change places: those of a text style always, those of a gravity if they agree on each axis, and
those of an input type if they agree on the keyboard, where the decimal one wins over any other.
-/

namespace LayoutCompose

/-! ### Texts of flags -/

def joined (fs : List String) : String :=
  "|".intercalate fs

theorem flags_joined {fs : List String} (h : fs ≠ []) : flags (joined fs) = fs.flatMap flags := by
  have hne : fs.map String.toList ≠ [] := by simpa using h
  have hmark : "|".toList = ['|'] := rfl
  rw [flags, joined, String.toList_intercalate, hmark, Text.pieces_intercalate_flatMap hne,
    List.flatMap_map, List.map_flatMap]
  rfl

/-- Flags in another order are the same flags in another order. -/
theorem perm_flags_joined {fs gs : List String} (h : fs.Perm gs) :
    (flags (joined fs)).Perm (flags (joined gs)) := by
  cases fs with
  | nil =>
      obtain rfl := h.nil_eq
      exact List.Perm.refl _
  | cons f fs =>
      have hgs : gs ≠ [] := by
        rintro rfl
        exact List.cons_ne_nil f fs h.eq_nil
      rw [flags_joined (List.cons_ne_nil f fs), flags_joined hgs]
      exact h.flatMap_right flags

/-! ### Steps -/

section Steps

variable {α : Type} {apply : α → String → Option α} {accepts : String → Bool}
  {step : α → String → α} {s t : String}

theorem applyFlags_eq_foldl
    (h : ∀ a f, apply a f = if accepts f then some (step a f) else none) (a : α)
    (fs : List String) :
    applyFlags apply a fs = if fs.all accepts then some (fs.foldl step a) else none := by
  induction fs generalizing a with
  | nil => rfl
  | cons f fs ih =>
      rw [applyFlags, h]
      cases hf : accepts f with
      | false => simp [hf]
      | true => simp [hf, ih]

/-- A text of flags is refused for one of them, or else it has the value of all their steps. -/
theorem readFlags_eq
    (h : ∀ a f, apply a f = if accepts f then some (step a f) else none) (start : α)
    (e : Expectation) (s : String) : readFlags start apply e s =
      if (flags s).all accepts then .ok ((flags s).foldl step start) else .error e := by
  rw [readFlags, applyFlags_eq_foldl h]
  cases (flags s).all accepts <;> rfl

theorem readFlags_of_perm
    (h : ∀ a f, apply a f = if accepts f then some (step a f) else none)
    (hperm : (flags s).Perm (flags t))
    (hswap : ∀ f ∈ flags s, ∀ g ∈ flags s, ∀ a, step (step a f) g = step (step a g) f)
    (start : α) (e : Expectation) :
    readFlags start apply e s = readFlags start apply e t := by
  rw [readFlags_eq h, readFlags_eq h, hperm.all_eq, hperm.foldl_eq' hswap]

/-- Whether a text of flags is refused does not depend on their order, even if they conflict. -/
theorem readFlags_eq_error_iff_of_perm
    (h : ∀ a f, apply a f = if accepts f then some (step a f) else none)
    (hperm : (flags s).Perm (flags t)) (start : α) (e e' : Expectation) :
    readFlags start apply e s = .error e' ↔ readFlags start apply e t = .error e' := by
  rw [readFlags_eq h, readFlags_eq h, hperm.all_eq]
  cases (flags t).all accepts <;> simp

end Steps

/-! ### Text styles -/

namespace TextStyle

def accepts (flag : String) : Bool :=
  ["normal", "bold", "italic"].contains flag

def step (style : TextStyle) (flag : String) : TextStyle :=
  ⟨style.bold || flag == "bold", style.italic || flag == "italic"⟩

theorem apply_eq (style : TextStyle) (flag : String) :
    style.apply flag = if accepts flag then some (style.step flag) else none := by
  unfold apply
  split
  · simp [accepts, step]
  · simp [accepts, step]
  · simp [accepts, step]
  · rename_i hnormal hbold hitalic
    have hrefused : accepts flag = false := by
      simpa [accepts] using ⟨hnormal, hbold, hitalic⟩
    simp [hrefused]

theorem step_swap (style : TextStyle) (f g : String) :
    (style.step f).step g = (style.step g).step f := by
  simp only [step, Bool.or_right_comm]

end TextStyle

/-! ### Input types -/

namespace InputType

def accepts (flag : String) : Bool :=
  flag != "" && flag.toList.all Char.isAlpha

def keyboardAfter (keyboard : Option Keyboard) (flag : String) : Option Keyboard :=
  if keyboard = some .decimal then keyboard else keyboardOf? flag <|> keyboard

def step (input : InputType) (flag : String) : InputType :=
  ⟨input.password || isPassword flag, keyboardAfter input.keyboard flag⟩

theorem apply_eq (input : InputType) (flag : String) :
    input.apply flag = if accepts flag then some (input.step flag) else none := by
  have hiff : accepts flag = true ↔ ¬ (flag = "" ∨ (!flag.toList.all Char.isAlpha) = true) := by
    simp [accepts]
  unfold apply
  split
  · rename_i hrefused
    rw [if_neg fun haccepts => hiff.mp haccepts hrefused]
  · rename_i haccepted
    rw [if_pos (hiff.mpr haccepted)]
    rfl

/-- The flags that select a keyboard, other than the decimal one, select the same. -/
def OneKeyboard (flags : List String) : Prop :=
  ∀ f ∈ flags, ∀ g ∈ flags, f ≠ "numberDecimal" → g ≠ "numberDecimal" →
    ∀ k l, keyboardOf? f = some k → keyboardOf? g = some l → k = l

@[simp] theorem keyboardAfter_decimal (keyboard : Option Keyboard) :
    keyboardAfter keyboard "numberDecimal" = some .decimal := by
  unfold keyboardAfter
  split
  · assumption
  · rfl

theorem keyboardAfter_of_none {flag : String} (h : keyboardOf? flag = none)
    (keyboard : Option Keyboard) : keyboardAfter keyboard flag = keyboard := by
  simp [keyboardAfter, h]

theorem keyboardAfter_swap {f g : String} (h : f ≠ "numberDecimal" → g ≠ "numberDecimal" →
    ∀ k l, keyboardOf? f = some k → keyboardOf? g = some l → k = l) (keyboard : Option Keyboard) :
    keyboardAfter (keyboardAfter keyboard f) g = keyboardAfter (keyboardAfter keyboard g) f := by
  by_cases hf : f = "numberDecimal"
  · rw [hf, keyboardAfter_decimal, keyboardAfter_decimal, keyboardAfter, if_pos rfl]
  · by_cases hg : g = "numberDecimal"
    · rw [hg, keyboardAfter_decimal, keyboardAfter_decimal, keyboardAfter, if_pos rfl]
    · cases hk : keyboardOf? f with
      | none => rw [keyboardAfter_of_none hk, keyboardAfter_of_none hk]
      | some k =>
          cases hl : keyboardOf? g with
          | none => rw [keyboardAfter_of_none hl, keyboardAfter_of_none hl]
          | some l =>
              have hsame (keyboard) : keyboardAfter keyboard f = keyboardAfter keyboard g := by
                rw [keyboardAfter, keyboardAfter, hk, hl, h hf hg k l hk hl]
              rw [hsame, hsame]

theorem step_swap {fs : List String} (h : OneKeyboard fs) :
    ∀ f ∈ fs, ∀ g ∈ fs, ∀ input : InputType,
      (input.step f).step g = (input.step g).step f := by
  intro f hf g hg input
  simp only [step, keyboardAfter_swap (h f hf g hg), Bool.or_right_comm]

end InputType

/-! ### Gravity -/

namespace Gravity

/-- The place along a line that a flag assigns. -/
def horizontalOf? (flag : String) : Option Horizontal :=
  [("start", Horizontal.leading), ("left", .leading), ("end", .trailing), ("right", .trailing),
    ("center_horizontal", .center), ("center", .center)].lookup flag

/-- The place across the lines that a flag assigns. -/
def verticalOf? (flag : String) : Option Vertical :=
  [("top", Vertical.top), ("bottom", .bottom), ("center_vertical", .center),
    ("center", .center)].lookup flag

def accepts (flag : String) : Bool :=
  (horizontalOf? flag).isSome || (verticalOf? flag).isSome

def step (g : Gravity) (flag : String) : Gravity :=
  ⟨(horizontalOf? flag).or g.horizontal, (verticalOf? flag).or g.vertical⟩

theorem apply_eq (g : Gravity) (flag : String) :
    g.apply flag = if accepts flag then some (g.step flag) else none := by
  unfold apply
  split
  · rfl
  · rfl
  · rfl
  · rfl
  · rfl
  · rfl
  · rfl
  · rfl
  · rfl
  · rename_i htop hbottom hvertical hstart hleft hend hright hhorizontal hcenter
    have hrefused : accepts flag = false := by
      simpa [accepts, horizontalOf?, verticalOf?, List.lookup_eq_none_iff] using
        ⟨⟨hstart, hleft, hend, hright, hhorizontal, hcenter⟩, htop, hbottom, hvertical, hcenter⟩
    simp [hrefused]

/-- No two flags assign different places on the same axis. -/
structure OnePlace (flags : List String) : Prop where
  horizontal : ∀ f ∈ flags, ∀ g ∈ flags, ∀ a b, horizontalOf? f = some a →
    horizontalOf? g = some b → a = b
  vertical : ∀ f ∈ flags, ∀ g ∈ flags, ∀ a b, verticalOf? f = some a →
    verticalOf? g = some b → a = b

/-- Of two assignments that agree, either may come first. -/
theorem or_swap {α : Type} {x y : Option α} (h : ∀ a b, x = some a → y = some b → a = b)
    (z : Option α) : x.or (y.or z) = y.or (x.or z) := by
  cases x with
  | none => rfl
  | some a =>
      cases y with
      | none => rfl
      | some b => rw [h a b rfl rfl]

theorem step_swap {fs : List String} (h : OnePlace fs) :
    ∀ f ∈ fs, ∀ g ∈ fs, ∀ place : Gravity, (place.step f).step g = (place.step g).step f := by
  intro f hf g hg place
  simp only [step, or_swap (h.horizontal f hf g hg), or_swap (h.vertical f hf g hg)]

end Gravity

/-- The order of flags does not matter where they do not conflict: for a text style never, for an
input type if the flags ask for one keyboard besides the decimal one, and for a gravity if they ask
for one place on each axis. Whether a text is refused never depends on their order. -/
theorem read_ignores_flag_order {fs gs : List String} (h : fs.Perm gs) :
    TextStyle.read (joined fs) = TextStyle.read (joined gs) ∧
    (InputType.OneKeyboard (flags (joined fs)) →
      InputType.read (joined fs) = InputType.read (joined gs)) ∧
    (Gravity.OnePlace (flags (joined fs)) →
      Gravity.read (joined fs) = Gravity.read (joined gs)) ∧
    ∀ e, (TextStyle.read (joined fs) = .error e ↔ TextStyle.read (joined gs) = .error e) ∧
      (InputType.read (joined fs) = .error e ↔ InputType.read (joined gs) = .error e) ∧
      (Gravity.read (joined fs) = .error e ↔ Gravity.read (joined gs) = .error e) := by
  have hperm : (flags (joined fs)).Perm (flags (joined gs)) := perm_flags_joined h
  refine ⟨?_, fun hkeyboard => ?_, fun hplace => ?_, fun e => ⟨?_, ?_, ?_⟩⟩
  · exact readFlags_of_perm TextStyle.apply_eq hperm
      (fun f _ g _ style => style.step_swap f g) _ _
  · exact readFlags_of_perm InputType.apply_eq hperm (InputType.step_swap hkeyboard) _ _
  · exact readFlags_of_perm Gravity.apply_eq hperm (Gravity.step_swap hplace) _ _
  · exact readFlags_eq_error_iff_of_perm TextStyle.apply_eq hperm _ _ _
  · exact readFlags_eq_error_iff_of_perm InputType.apply_eq hperm _ _ _
  · exact readFlags_eq_error_iff_of_perm Gravity.apply_eq hperm _ _ _

/-- Flags with white space around them, where the decimal keyboard and a place on each axis are
asked for in either order. -/
theorem read_ignores_flag_order_reversed :
    (InputType.OneKeyboard (flags (joined ["number ", "numberDecimal", "numberPassword"])) ∧
      InputType.read (joined ["number ", "numberDecimal", "numberPassword"]) =
        InputType.read (joined ["numberPassword", "numberDecimal", "number "])) ∧
    (Gravity.OnePlace (flags (joined ["center", " center_vertical"])) ∧
      Gravity.read (joined ["center", " center_vertical"]) =
        Gravity.read (joined [" center_vertical", "center"])) ∧
    (TextStyle.read (joined ["bold", "x"]) = .error .textStyle ↔
      TextStyle.read (joined ["x", "bold"]) = .error .textStyle) := by
  have hkeyboard :
      InputType.OneKeyboard (flags (joined ["number ", "numberDecimal", "numberPassword"])) := by
    have hflags : flags (joined ["number ", "numberDecimal", "numberPassword"]) =
        ["number", "numberDecimal", "numberPassword"] := by decide +kernel
    have hnumber : ∀ f ∈ ["number", "numberDecimal", "numberPassword"], f ≠ "numberDecimal" →
        InputType.keyboardOf? f = some .number := by
      intro f hf hne
      simp only [List.mem_cons, List.not_mem_nil, or_false] at hf
      rcases hf with rfl | rfl | rfl
      · rfl
      · exact absurd rfl hne
      · rfl
    rw [hflags]
    intro f hf g hg hfne hgne k l hk hl
    rw [hnumber f hf hfne] at hk
    rw [hnumber g hg hgne] at hl
    exact Option.some.inj (hk.symm.trans hl)
  have hplace : Gravity.OnePlace (flags (joined ["center", " center_vertical"])) := by
    have hflags : flags (joined ["center", " center_vertical"]) =
        ["center", "center_vertical"] := by decide +kernel
    have hcenter : ∀ f ∈ ["center", "center_vertical"],
        (∀ a, Gravity.horizontalOf? f = some a → a = .center) ∧
          ∀ a, Gravity.verticalOf? f = some a → a = .center := by
      intro f hf
      rw [List.mem_pair] at hf
      rcases hf with rfl | rfl
      · exact ⟨fun a ha => (Option.some.inj ha).symm, fun a ha => (Option.some.inj ha).symm⟩
      · refine ⟨fun a ha => ?_, fun a ha => (Option.some.inj ha).symm⟩
        cases ha
    rw [hflags]
    constructor
    · intro f hf g hg a b ha hb
      rw [(hcenter f hf).1 a ha, (hcenter g hg).1 b hb]
    · intro f hf g hg a b ha hb
      rw [(hcenter f hf).2 a ha, (hcenter g hg).2 b hb]
  refine ⟨⟨hkeyboard, ?_⟩, ⟨hplace, ?_⟩, ?_⟩
  · exact (read_ignores_flag_order (List.reverse_perm _).symm).2.1 hkeyboard
  · exact (read_ignores_flag_order (List.Perm.swap _ _ _)).2.2.1 hplace
  · exact ((read_ignores_flag_order (List.Perm.swap _ _ _)).2.2.2 _).1

end LayoutCompose
