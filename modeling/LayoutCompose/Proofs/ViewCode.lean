import LayoutCompose.Compose.View
import LayoutCompose.Proofs.ReferenceNames

/-!
What the code of a view is made of.

A group differs from another in the call in front of its block, the modifiers that only its
kind has, the references it declares and the scope of its children. These are written out here
as functions of the group, so that the code of all groups is one case in later proofs.
-/

namespace LayoutCompose.Compose

open Kotlin (Call Chain Code)

def groupExtras : Group → List String
  | .radioGroup .. => ["selectableGroup()"]
  | .scroll horizontal => [scrollModifier horizontal]
  | _ => []

def groupCall (modifiers : Chain) : Group → Call
  | .row gravity => rowCall modifiers gravity
  | .column gravity => columnCall modifiers gravity
  | .box gravity =>
    ({ name := "Box" } : Call)
      |>.modified modifiers
      |>.argOf "contentAlignment" (boxAlignment? gravity)
  | .linear gravity orientation | .radioGroup gravity orientation =>
    linearCall modifiers gravity orientation
  | .card corner color elevation => cardCall modifiers corner color elevation
  | .scroll horizontal => linearCall modifiers {} (scrollOrientation horizontal)
  | .constraint => ({ name := "ConstraintLayout" } : Call).modified modifiers

/-- The references that a group declares for its children. -/
def groupReferences (children : List View) : Group → List String
  | .constraint => (References.given children).declared
  | _ => []

def childScope (g : Group) (children : List View) (i : Nat) : Scope :=
  match g with
  | .row _ => .row
  | .column _ => .column
  | .box _ => .box
  | .linear _ orientation | .radioGroup _ orientation => linearScope orientation
  | .card .. => .plain
  | .scroll horizontal => linearScope (scrollOrientation horizontal)
  | .constraint =>
    .constraint (References.given children).ids ((References.given children).nameAt i)

def declaration (name : String) : String :=
  "val " ++ name ++ " = createRef()"

/-- What a group puts around its children, once its modifiers are known. -/
def groupEnclosure (modifiers : Chain) (g : Group) (children : List View) : Enclosure where
  header := (groupCall modifiers g).header
  preamble := (groupReferences children g).map declaration
  scope := childScope g children

/-- A scrolling group has just one child, and the children of a constraint group can be told
apart. -/
structure Holds (g : Group) (children : List View) : Prop where
  single : g.kind = .scroll → children.length = 1
  distinct : g.kind = .constraint → References.Distinct children

/-- The modifiers of a view are those of its stages, if each of them can be written. -/
theorem chain_eq_ok_iff {scope : Scope} {kind : Kind} {f : Frame} {extras : List String}
    {modifiers : Chain} : (chain scope kind f extras).result = .ok modifiers ↔
      ∃ ties, (constrainCalls scope kind f).result = .ok ties ∧
      ∃ weight, weightCalls scope f = .ok weight ∧
      ∃ margin, marginCalls f = .ok margin ∧
      ∃ alpha, alphaCalls f = .ok alpha ∧
      ∃ padding, paddingCalls f = .ok padding ∧
        ⟨ties ++ weight ++ ((childAlignment? scope f.gravity).toList.map fun a =>
            "align(" ++ a ++ ")") ++ margin ++ frameSizeCalls scope f ++ alpha ++
          backgroundCalls f ++ padding ++ extras ++ semanticsCalls kind f⟩ = modifiers := by
  simp only [chain, Noted.result_mapError, Outcome.mapError_eq_ok, Noted.result_bind,
    Outcome.Except_bind_eq_ok, Noted.result_of, Noted.result_pure, Except.ok.injEq]

theorem enclosure_eq_ok_iff {scope : Scope} {f : Frame} {g : Group} {children : List View}
    {around : Enclosure} :
    (enclosure scope f g children).result = .ok around ↔ Holds g children ∧ ∃ modifiers,
      (chain scope g.kind f (groupExtras g)).result = .ok modifiers ∧
        groupEnclosure modifiers g children = around := by
  by_cases hscroll : g.kind = .scroll
  · obtain ⟨horizontal, rfl⟩ : ∃ horizontal, g = .scroll horizontal := by
      cases g <;> simp_all [Group.kind]
    by_cases hone : children.length = 1
    · have hholds : Holds (.scroll horizontal) children := ⟨fun _ => hone, by simp [Group.kind]⟩
      simp only [enclosure, hone, ne_eq, not_true_eq_false, if_false, Noted.result_bind,
        Outcome.Except_bind_eq_ok, Noted.result_pure, Except.ok.injEq, hholds, true_and]
      rfl
    · refine iff_of_false ?_ fun h => hone (h.1.single rfl)
      simp [enclosure, hone]
  by_cases hconstraint : g.kind = .constraint
  · obtain rfl : g = .constraint := by
      cases g <;> simp_all [Group.kind]
    have hholds : Holds .constraint children ↔ References.Distinct children :=
      ⟨fun h => h.distinct rfl, fun h => ⟨by simp [Group.kind], fun _ => h⟩⟩
    simp only [enclosure, Noted.result_bind, Outcome.Except_bind_eq_ok, Noted.result_pure,
      Except.ok.injEq, References.ofChildren_eq_ok_iff, hholds]
    constructor
    · rintro ⟨modifiers, hmodifiers, refs, ⟨hdistinct, rfl⟩, rfl⟩
      exact ⟨hdistinct, modifiers, hmodifiers, rfl⟩
    · rintro ⟨hdistinct, modifiers, hmodifiers, rfl⟩
      exact ⟨modifiers, hmodifiers, _, ⟨hdistinct, rfl⟩, rfl⟩
  · have hholds : Holds g children := ⟨fun h => absurd h hscroll, fun h => absurd h hconstraint⟩
    have henclosure : enclosure scope f g children = (do
        let modifiers ← chain scope g.kind f (groupExtras g)
        return groupEnclosure modifiers g children) := by
      cases g with
      | scroll horizontal => exact absurd rfl hscroll
      | constraint => exact absurd rfl hconstraint
      | _ => rfl
    simp only [henclosure, Noted.result_bind, Outcome.Except_bind_eq_ok, Noted.result_pure,
      Except.ok.injEq, hholds, true_and]

/-! ### Views -/

theorem viewCode_of_isGone {scope : Scope} {v : View} (h : v.isGone = true) :
    (viewCode scope v).result = .ok [] := by
  cases v with
  | control f c =>
      have hgone : f.visibility = .gone := beq_iff_eq.mp h
      simp [viewCode, hgone]
  | group f g children =>
      have hgone : f.visibility = .gone := beq_iff_eq.mp h
      simp [viewCode, hgone]

theorem eq_nil_of_isGone {scope : Scope} {v : View} {code : List Code} (hgone : v.isGone = true)
    (h : (viewCode scope v).result = .ok code) : code = [] :=
  Except.ok.inj (h.symm.trans (viewCode_of_isGone hgone))

theorem viewCode_control_eq_ok_iff {scope : Scope} {f : Frame} {c : Control} {code : List Code}
    (h : f.visibility ≠ .gone) :
    (viewCode scope (.control f c)).result = .ok code ↔
      ∃ text, (controlLine scope f c).result = .ok text ∧ [.line text] = code := by
  simp [viewCode, h]

theorem viewCode_group_eq_ok_iff {scope : Scope} {f : Frame} {g : Group} {children : List View}
    {code : List Code} (h : f.visibility ≠ .gone) :
    (viewCode scope (.group f g children)).result = .ok code ↔
      Holds g children ∧ ∃ modifiers body,
        (chain scope g.kind f (groupExtras g)).result = .ok modifiers ∧
          (viewsCode (childScope g children) 0 children).result = .ok body ∧
            [.block (groupCall modifiers g).header
              ((groupReferences children g).map (fun name => .line (declaration name)) ++ body)] =
              code := by
  simp only [viewCode, h, if_false, Noted.result_bind, Outcome.Except_bind_eq_ok,
    Noted.result_pure, Except.ok.injEq, enclosure_eq_ok_iff]
  constructor
  · rintro ⟨around, ⟨hholds, modifiers, hmodifiers, rfl⟩, body, hbody, rfl⟩
    exact ⟨hholds, modifiers, body, hmodifiers, hbody, by simp [groupEnclosure]⟩
  · rintro ⟨hholds, modifiers, body, hmodifiers, hbody, rfl⟩
    exact ⟨_, ⟨hholds, modifiers, hmodifiers, rfl⟩, body, hbody, by simp [groupEnclosure]⟩

theorem viewsCode_cons_eq_ok_iff {scope : Nat → Scope} {i : Nat} {v : View} {vs : List View}
    {code : List Code} :
    (viewsCode scope i (v :: vs)).result = .ok code ↔ ∃ first rest,
      (viewCode (scope i) v).result = .ok first ∧
        (viewsCode scope (i + 1) vs).result = .ok rest ∧ first ++ rest = code := by
  simp [viewsCode]

end LayoutCompose.Compose
