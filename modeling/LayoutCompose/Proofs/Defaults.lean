import LayoutCompose.Document.Attributes
import LayoutCompose.Proofs.Outcome
import LayoutCompose.Proofs.Replacement
import LayoutCompose.View.Vocabulary

/-!
Attributes that say what is understood without them.

Each kind of view has attributes with a default. One that is written out with this value may give
another view than one that is left out: a side of zero length is not an open side. But the two
views have the same essence, so each can stand for the other in every layout.
-/

namespace LayoutCompose

/-! ### Results that agree -/

/-- The same failure, or values with the same image. -/
inductive Outcome.Agree {ε α β : Type} (f : α → β) : Except ε α → Except ε α → Prop
  | error (e : ε) : Agree f (.error e) (.error e)
  | ok {a b : α} : f a = f b → Agree f (.ok a) (.ok b)

namespace Outcome.Agree

variable {ε α β γ δ : Type} {f : α → β} {g : γ → δ} {x y : Except ε α} {k l : α → Except ε γ}

theorem of_eq (h : x = y) : Agree f x y := by
  subst h
  cases x with
  | error e => exact .error e
  | ok a => exact .ok rfl

theorem eq (h : Agree (fun a : α => a) x y) : x = y := by
  cases h with
  | error e => rfl
  | ok hab => rw [hab]

theorem bind (h : Agree f x y) (hk : ∀ a b, f a = f b → Agree g (k a) (l b)) :
    Agree g (x >>= k) (y >>= l) := by
  cases h with
  | error e => exact .error e
  | ok hab => exact hk _ _ hab

theorem bind_of_eq (h : x = y) (hk : ∀ a, Agree g (k a) (l a)) :
    Agree g (x >>= k) (y >>= l) := by
  subst h
  cases x with
  | error e => exact .error e
  | ok a => exact hk a

end Outcome.Agree

open Outcome (Agree)

/-! ### Defaults -/

namespace Vocabulary

/-- The attributes with a default that does not depend on the kind of the view. -/
def defaults : List (String × String) :=
  [("visibility", "visible"), ("enabled", "true"), ("alpha", "1"),
    ("layout_width", "wrap_content"), ("layout_height", "wrap_content"),
    ("layout_weight", "0"), ("layout_gravity", "top|start"), ("padding", "0dp"),
    ("layout_margin", "0dp"), ("text", ""), ("textStyle", "normal"), ("singleLine", "false"),
    ("gravity", "top|start"), ("inputType", "text"), ("checked", "false"),
    ("scaleType", "fitCenter"), ("valueFrom", "0"), ("min", "0"), ("valueTo", "1"),
    ("max", "1"), ("stepSize", "0")]

def alias? : String → Option String
  | "valueFrom" => some "min"
  | "min" => some "valueFrom"
  | "valueTo" => some "max"
  | "max" => some "valueTo"
  | _ => none

def hasDefault (name : String) : Bool :=
  name == "orientation" || defaults.any fun (n, _) => n == name

/-- The default of an attribute, if it has one, is read as something that `f` does not tell from
nothing. -/
def isSettled {α β : Type} [DecidableEq β] (name : String)
    (read : String → Except Expectation α) (f : Option α → β) : Bool :=
  name != "orientation" && defaults.all fun (n, value) =>
    n != name || decide (∃ a, read value = .ok a ∧ f none = f (some a))

end Vocabulary

/-- The direction in which a kind of view lays out its children unless told otherwise. -/
def Kind.defaultOrientation? : Kind → Option String
  | linear => some "horizontal"
  | radioGroup => some "vertical"
  | _ => none

def Kind.defaults (kind : Kind) : List (String × String) :=
  (Vocabulary.defaults ++
    kind.defaultOrientation?.toList.map fun value => ("orientation", value)).filter
      fun (name, _) => (kind.entry? name).isSome

theorem Kind.mem_defaults {kind : Kind} {name value : String}
    (h : (name, value) ∈ kind.defaults) : (name, value) ∈ Vocabulary.defaults ∨
      name = "orientation" ∧ kind.defaultOrientation? = some value := by
  rcases List.mem_append.mp (List.mem_filter.mp h).1 with hmem | hmem
  · exact .inl hmem
  · obtain ⟨other, hother, heq⟩ := List.mem_map.mp hmem
    obtain ⟨rfl, rfl⟩ := Prod.mk.inj heq
    exact .inr ⟨rfl, Option.mem_toList.mp hother⟩

namespace Document.Attributes

/-- The second attributes are the first with one more, which has the default of its kind and of
which there was nothing under another name. -/
structure AddsDefault (kind : Kind) (attrs more : Attributes) (name value : String) : Prop where
  default : (name, value) ∈ kind.defaults
  tag : more.tag = attrs.tag
  absent : attrs.entries.lookup name = none
  unaliased : ∀ other, Vocabulary.alias? name = some other → attrs.entries.lookup other = none
  present : more.entries.lookup name = some value
  others : ∀ n, n ≠ name → more.entries.lookup n = attrs.entries.lookup n

namespace AddsDefault

variable {kind : Kind} {attrs more : Attributes} {name value : String} {α β : Type}
variable (h : AddsDefault kind attrs more name value)

include h

/-! ### Single attributes -/

theorem ne_of_hasDefault {n : String} (hn : Vocabulary.hasDefault n = false) : n ≠ name := by
  rintro rfl
  rw [Vocabulary.hasDefault, Bool.or_eq_false_iff, List.any_eq_false, beq_eq_false_iff_ne] at hn
  rcases Kind.mem_defaults h.default with hmem | ⟨horientation, -⟩
  · exact hn.2 _ hmem (beq_self_eq_true n)
  · exact hn.1 horientation

theorem exists_of_isSettled [DecidableEq β] {n : String} {read : String → Except Expectation α}
    {f : Option α → β} (hs : Vocabulary.isSettled n read f = true) (hn : n = name) :
    ∃ a, read value = .ok a ∧ f none = f (some a) := by
  subst hn
  rw [Vocabulary.isSettled, Bool.and_eq_true, List.all_eq_true, bne_iff_ne] at hs
  rcases Kind.mem_defaults h.default with hmem | ⟨horientation, -⟩
  · simpa using hs.2 _ hmem
  · exact absurd horientation hs.1

theorem get_of_ne {n : String} (read : String → Except Expectation α) (hn : n ≠ name) :
    attrs.get n read = more.get n read := by
  rw [get, get, h.others n hn, h.tag]

theorem get_eq (n : String) (read : String → Except Expectation α)
    (hn : Vocabulary.hasDefault n = false) : attrs.get n read = more.get n read :=
  h.get_of_ne read (h.ne_of_hasDefault hn)

theorem either_eq (n n' : String) (read : String → Except Expectation α)
    (hn : Vocabulary.hasDefault n = false) (hn' : Vocabulary.hasDefault n' = false) :
    attrs.either n n' read = more.either n n' read := by
  rw [either, either, h.get_eq n read hn, h.get_eq n' read hn']

/-- The attribute that was added has no effect on what `f` tells of it. -/
theorem get_agree {n : String} {read : String → Except Expectation α} {f : Option α → β}
    (hs : n = name → ∃ a, read value = .ok a ∧ f none = f (some a)) :
    Agree f (attrs.get n read) (more.get n read) := by
  by_cases hn : n = name
  · obtain ⟨a, hread, hf⟩ := hs hn
    subst hn
    simp only [get, h.absent, h.present, hread]
    exact .ok hf
  · exact .of_eq (h.get_of_ne read hn)

theorem getD_agree {n : String} {read : String → Except Expectation α} {d : α} {f : α → β}
    (hs : n = name → ∃ a, read value = .ok a ∧ f d = f a) :
    Agree f (attrs.getD n read d) (more.getD n read d) :=
  (h.get_agree hs).bind fun _ _ hab => .ok hab

theorem getD_eq [DecidableEq α] (n : String) (read : String → Except Expectation α) (d : α)
    (hs : Vocabulary.isSettled n read (fun a => a.getD d) = true) :
    attrs.getD n read d = more.getD n read d :=
  (h.getD_agree (h.exists_of_isSettled hs)).eq

/-- An attribute with two names, of which one was added. -/
theorem either_agree [DecidableEq β] (n n' : String) (read : String → Except Expectation α)
    (f : Option α → β) (hs : Vocabulary.isSettled n read f = true)
    (hs' : Vocabulary.isSettled n' read f = true) (hn : Vocabulary.alias? n = some n') :
    Agree f (attrs.either n n' read) (more.either n n' read) := by
  by_cases hfirst : n = name
  · obtain ⟨a, hread, hf⟩ := h.exists_of_isSettled hs hfirst
    subst hfirst
    simp only [either, get, h.absent, h.present, h.unaliased n' hn, hread]
    exact .ok hf
  · refine .bind_of_eq (h.get_of_ne read hfirst) fun first => ?_
    cases first with
    | some a => exact .ok rfl
    | none => exact h.get_agree (h.exists_of_isSettled hs')

theorem require_eq (n : String) (a? : Option α) : attrs.require n a? = more.require n a? := by
  cases a? with
  | none => rw [require, require, h.tag]
  | some a => rfl

theorem gravity_agree (n : String)
    (hs : Vocabulary.isSettled n Gravity.read (fun g => (g.getD {}).essential) = true) :
    Agree Gravity.essential (attrs.getD n Gravity.read {}) (more.getD n Gravity.read {}) :=
  h.getD_agree (h.exists_of_isSettled hs)

/-! ### Frames -/

theorem constraintsFrom_eq {table : List (String × Anchor × Anchor)}
    (htable : (table.all fun (n, _) => !Vocabulary.hasDefault n) = true) :
    attrs.constraintsFrom table = more.constraintsFrom table := by
  induction table with
  | nil => rfl
  | cons entry table ih =>
      rw [List.all_cons, Bool.and_eq_true, Bool.not_eq_true'] at htable
      simp only [constraintsFrom, h.get_eq entry.1 Target.read htable.1, ih htable.2]

/-- Room of zero length at all sides leaves the sides that have their own. -/
theorem edges_agree {base : String}
    (hbase : Vocabulary.isSettled base Dimension.read
      (fun all => all.filter fun d => !d.isZero) = true)
    (hsides : (["Horizontal", "Vertical", "Start", "Left", "End", "Right", "Top", "Bottom"].all
      fun side => !Vocabulary.hasDefault (base ++ side)) = true) :
    Agree Edges.essential (attrs.edges base) (more.edges base) := by
  simp only [List.all_cons, List.all_nil, Bool.and_true, Bool.and_eq_true,
    Bool.not_eq_true'] at hsides
  obtain ⟨hhorizontal, hvertical, hstart, hleft, hend, hright, htop, hbottom⟩ := hsides
  refine (h.get_agree (h.exists_of_isSettled hbase)).bind fun all all' hall => ?_
  refine .bind_of_eq (h.get_eq _ _ hhorizontal) fun horizontal => ?_
  refine .bind_of_eq (h.get_eq _ _ hvertical) fun vertical => ?_
  refine .bind_of_eq (h.either_eq _ _ _ hstart hleft) fun leading => ?_
  refine .bind_of_eq (h.either_eq _ _ _ hend hright) fun trailing => ?_
  refine .bind_of_eq (h.get_eq _ _ htop) fun top => ?_
  refine .bind_of_eq (h.get_eq _ _ hbottom) fun bottom => ?_
  have hside (side axis : Option Dimension) :
      ((side <|> axis <|> all).filter fun d => !d.isZero) =
        (side <|> axis <|> all').filter fun d => !d.isZero := by
    cases side with
    | some d => rfl
    | none =>
        cases axis with
        | some d => rfl
        | none => exact hall
  exact .ok (by simp only [Edges.essential, hside])

theorem frame_agree : Agree Frame.essential attrs.frame more.frame := by
  refine .bind_of_eq (h.constraintsFrom_eq (by decide +kernel)) fun constraints => ?_
  refine .bind_of_eq (h.get_eq "id" readId (by decide +kernel)) fun id => ?_
  refine .bind_of_eq (h.getD_eq _ Extent.read _ (by decide +kernel)) fun width => ?_
  refine .bind_of_eq (h.getD_eq _ Extent.read _ (by decide +kernel)) fun height => ?_
  refine (h.edges_agree (by decide +kernel) (by decide +kernel)).bind
    fun padding padding' hpadding => ?_
  refine (h.edges_agree (by decide +kernel) (by decide +kernel)).bind
    fun margin margin' hmargin => ?_
  refine .bind_of_eq (h.get_eq _ _ (by decide +kernel)) fun background => ?_
  refine .bind_of_eq (h.getD_eq _ Visibility.read _ (by decide +kernel)) fun visibility => ?_
  refine .bind_of_eq (h.getD_eq _ readBool _ (by decide +kernel)) fun enabled => ?_
  refine .bind_of_eq (h.getD_eq _ Single.read _ (by decide +kernel)) fun alpha => ?_
  refine .bind_of_eq (h.getD_eq _ Single.readNonNegative _ (by decide +kernel)) fun weight => ?_
  refine (h.gravity_agree _ (by decide +kernel)).bind fun gravity gravity' hgravity => ?_
  refine .bind_of_eq (h.get_eq _ _ (by decide +kernel)) fun description => ?_
  exact .ok (by simp only [Frame.essential, hpadding, hmargin, hgravity])

theorem frameOf_agree : Agree Frame.essential (attrs.frameOf kind) (more.frameOf kind) := by
  rw [frameOf, frameOf]
  split
  · refine .bind_of_eq (h.get_eq _ _ (by decide +kernel)) fun id => ?_
    refine .bind_of_eq (h.getD_eq _ Visibility.read _ (by decide +kernel)) fun visibility => ?_
    exact .ok rfl
  · exact h.frame_agree

/-! ### Controls -/

theorem isFolded_eq (fold : Bool) : attrs.isFolded fold = more.isFolded fold := by
  cases fold with
  | false => rfl
  | true => exact h.getD_eq "singleLine" readBool false (by decide +kernel)

theorem textProps_agree (fold : Bool) :
    Agree TextProps.essential (attrs.textProps fold) (more.textProps fold) := by
  have halign : Vocabulary.isSettled "gravity" Gravity.read
      (fun g => Horizontal.essential (g.bind Gravity.horizontal)) = true := by
    decide +kernel
  refine .bind_of_eq (h.get_eq _ _ (by decide +kernel)) fun maxLines => ?_
  refine .bind_of_eq (h.isFolded_eq fold) fun singleLine => ?_
  refine .bind_of_eq (h.getD_eq _ Caption.read _ (by decide +kernel)) fun text => ?_
  refine .bind_of_eq (h.get_eq _ _ (by decide +kernel)) fun color => ?_
  refine .bind_of_eq (h.get_eq _ _ (by decide +kernel)) fun size => ?_
  refine .bind_of_eq (h.getD_eq _ TextStyle.read _ (by decide +kernel)) fun style => ?_
  refine .bind_of_eq (h.get_eq _ _ (by decide +kernel)) fun font => ?_
  refine (h.get_agree (h.exists_of_isSettled halign)).bind fun gravity gravity' hgravity => ?_
  exact .ok (by simp only [TextProps.essential, hgravity])

/-- A bound of a track that is written out, under either of its names, is the usual bound. -/
theorem track_eq : attrs.track = more.track := by
  refine Agree.eq ?_
  refine (h.either_agree "valueFrom" "min" Single.read (fun x => x.getD Single.zero)
    (by decide +kernel) (by decide +kernel) rfl).bind fun lower lower' hlower => ?_
  refine (h.either_agree "valueTo" "max" Single.read (fun x => x.getD Single.one)
    (by decide +kernel) (by decide +kernel) rfl).bind fun upper upper' hupper => ?_
  refine .bind_of_eq (h.getD_eq _ Single.readNonNegative _ (by decide +kernel)) fun step => ?_
  exact .ok (by rw [hlower, hupper])

theorem toggle_eq (form : ToggleForm) : attrs.toggle form = more.toggle form := by
  rw [toggle, toggle, h.getD_eq "text" Caption.read _ (by decide +kernel),
    h.getD_eq "checked" readBool _ (by decide +kernel)]

/-! ### Views -/

/-- The direction of a group that is written out is the usual one. -/
theorem orientation_eq {usual : String} {orientation : Orientation}
    (husual : kind.defaultOrientation? = some usual)
    (hread : Orientation.read usual = .ok orientation) :
    attrs.getD "orientation" Orientation.read orientation =
      more.getD "orientation" Orientation.read orientation := by
  refine (h.getD_agree (f := fun o => o) fun hname => ⟨orientation, ?_, rfl⟩).eq
  rcases Kind.mem_defaults h.default with hmem | ⟨-, hvalue⟩
  · have hother : (Vocabulary.defaults.all fun (n, _) => n != "orientation") = true := by
      decide +kernel
    exact absurd hname.symm (bne_iff_ne.mp (List.all_eq_true.mp hother _ hmem))
  · rw [hvalue] at husual
    rw [Option.some.inj husual, hread]

theorem view_agree : Agree View.essential (attrs.view kind) (more.view kind) := by
  refine h.frameOf_agree.bind fun frame frame' hframe => ?_
  have hcontrol {c c' : Control} (hc : c.essential = c'.essential) :
      (View.control frame c).essential = (View.control frame' c').essential := by
    rw [View.essential, View.essential, hframe, hc]
  have hgroup {g g' : Group} (hg : g.essential = g'.essential) :
      (View.group frame g []).essential = (View.group frame' g' []).essential := by
    rw [View.essential, View.essential, hframe, hg]
  have hgravity := h.gravity_agree "gravity" (by decide +kernel)
  cases kind with
  | text =>
      exact (h.textProps_agree true).bind fun _ _ hprops =>
        .ok (hcontrol (congrArg Control.text hprops))
  | button =>
      exact (h.textProps_agree true).bind fun _ _ hprops =>
        .ok (hcontrol (congrArg Control.button hprops))
  | field =>
      refine (h.textProps_agree false).bind fun props props' hprops => ?_
      refine .bind_of_eq (h.get_eq _ _ (by decide +kernel)) fun hint => ?_
      refine .bind_of_eq (h.getD_eq _ InputType.read _ (by decide +kernel)) fun input => ?_
      refine .bind_of_eq (h.getD_eq _ readBool _ (by decide +kernel)) fun singleLine => ?_
      exact .ok (hcontrol (by simp only [Control.essential, hprops]))
  | image =>
      refine .bind_of_eq (h.either_eq _ _ _ (by decide +kernel) (by decide +kernel))
        fun source? => ?_
      refine .bind_of_eq (h.require_eq _ _) fun source => ?_
      refine .bind_of_eq (h.getD_eq _ Scaling.read _ (by decide +kernel)) fun scaling => ?_
      exact .ok (hcontrol rfl)
  | checkBox => exact .bind_of_eq (h.toggle_eq .checkBox) fun _ => .ok (hcontrol rfl)
  | radioButton => exact .bind_of_eq (h.toggle_eq .radioButton) fun _ => .ok (hcontrol rfl)
  | switch => exact .bind_of_eq (h.toggle_eq .switch) fun _ => .ok (hcontrol rfl)
  | rangeSlider =>
      refine .bind_of_eq h.track_eq fun track => ?_
      refine .bind_of_eq (h.get_eq _ _ (by decide +kernel)) fun values => ?_
      exact .ok (hcontrol rfl)
  | slider =>
      refine .bind_of_eq h.track_eq fun track => ?_
      refine .bind_of_eq (h.either_eq _ _ _ (by decide +kernel) (by decide +kernel))
        fun value => ?_
      exact .ok (hcontrol rfl)
  | plain => exact .ok (hcontrol rfl)
  | inclusion =>
      refine .bind_of_eq (h.get_eq _ _ (by decide +kernel)) fun layout? => ?_
      refine .bind_of_eq (h.require_eq _ _) fun layout => ?_
      exact .ok (hcontrol rfl)
  | row => exact hgravity.bind fun _ _ hg => .ok (hgroup (congrArg Group.row hg))
  | column => exact hgravity.bind fun _ _ hg => .ok (hgroup (congrArg Group.column hg))
  | box => exact hgravity.bind fun _ _ hg => .ok (hgroup (congrArg Group.box hg))
  | linear =>
      refine hgravity.bind fun gravity gravity' hg => ?_
      refine .bind_of_eq (h.orientation_eq rfl (by decide +kernel)) fun orientation => ?_
      exact .ok (hgroup (by simp only [Group.essential, hg]))
  | radioGroup =>
      refine hgravity.bind fun gravity gravity' hg => ?_
      refine .bind_of_eq (h.orientation_eq rfl (by decide +kernel)) fun orientation => ?_
      exact .ok (hgroup (by simp only [Group.essential, hg]))
  | card =>
      refine .bind_of_eq (h.get_eq _ _ (by decide +kernel)) fun corner => ?_
      refine .bind_of_eq (h.get_eq _ _ (by decide +kernel)) fun color => ?_
      refine .bind_of_eq (h.get_eq _ _ (by decide +kernel)) fun elevation => ?_
      exact .ok (hgroup rfl)
  | scroll =>
      rw [h.tag]
      exact .ok (hgroup rfl)
  | constraint => exact .ok (hgroup rfl)

end AddsDefault

theorem lookup_eq_none_of_contains {attrs : Attributes} {name : String}
    (h : attrs.contains name = false) : attrs.entries.lookup name = none := by
  rw [contains, List.any_eq_false] at h
  refine List.lookup_eq_none_iff.mpr fun entry hentry => ?_
  exact bne_iff_ne.mpr fun heq => h entry hentry (beq_iff_eq.mpr heq.symm)

/-- An attribute may be added anywhere among the others. -/
theorem addsDefault_of_absent {kind : Kind} {tag name value : String}
    {before after : List (String × String)} (hdefault : (name, value) ∈ kind.defaults)
    (habsent : ∀ n, n = name ∨ Vocabulary.alias? name = some n →
      (Attributes.mk tag (before ++ after)).contains n = false) :
    AddsDefault kind ⟨tag, before ++ after⟩ ⟨tag, before ++ (name, value) :: after⟩ name value := by
  have hlookup := lookup_eq_none_of_contains (habsent name (.inl rfl))
  have hbefore : before.lookup name = none := by
    rw [List.lookup_append, Option.or_eq_none_iff] at hlookup
    exact hlookup.1
  constructor
  case default => exact hdefault
  case tag => rfl
  case absent => exact hlookup
  case unaliased =>
    intro other hother
    exact lookup_eq_none_of_contains (habsent other (.inr hother))
  case present => rw [List.lookup_append, hbefore, List.lookup_cons_self, Option.none_or]
  case others =>
    intro n hn
    have hcons : ((name, value) :: after).lookup n = after.lookup n := by
      rw [List.lookup_cons, beq_eq_false_iff_ne.mpr hn]
    rw [List.lookup_append, List.lookup_append, hcons]

/-- An attribute that is written out with its default is as good as one that is left out: either
no view can be made with it or without it, for the same cause, or the two views can stand for each
other in every layout. -/
theorem view_default_interchangeable {kind : Kind} {tag name value : String}
    {before after : List (String × String)} (hdefault : (name, value) ∈ kind.defaults)
    (habsent : ∀ n, n = name ∨ Vocabulary.alias? name = some n →
      (Attributes.mk tag (before ++ after)).contains n = false) :
    (∃ cause, (Attributes.mk tag (before ++ after)).view kind = .error cause ∧
      (Attributes.mk tag (before ++ (name, value) :: after)).view kind = .error cause) ∨
    ∃ v w, (Attributes.mk tag (before ++ after)).view kind = .ok v ∧
      (Attributes.mk tag (before ++ (name, value) :: after)).view kind = .ok w ∧
      v.Interchangeable w := by
  have hagree := (addsDefault_of_absent hdefault habsent).view_agree
  generalize (Attributes.mk tag (before ++ after)).view kind = x at hagree ⊢
  generalize (Attributes.mk tag (before ++ (name, value) :: after)).view kind = y at hagree ⊢
  cases hagree with
  | error cause => exact .inl ⟨cause, rfl, rfl⟩
  | ok hessential => exact .inr ⟨_, _, rfl, rfl, .of_essential hessential⟩

theorem view_default_interchangeable_padding : ("padding", "0dp") ∈ Kind.text.defaults ∧
    ∃ v w, (Attributes.mk "TextView" ([("paddingTop", "4dp")] ++ [("text", "a")])).view .text =
        .ok v ∧
      (Attributes.mk "TextView" ([("paddingTop", "4dp")] ++ ("padding", "0dp") ::
        [("text", "a")])).view .text = .ok w ∧
      v.frame.padding.leading ≠ w.frame.padding.leading ∧ v.Interchangeable w := by
  have hdefault : ("padding", "0dp") ∈ Kind.text.defaults := by decide +kernel
  have habsent : ∀ n, n = "padding" ∨ Vocabulary.alias? "padding" = some n →
      (Attributes.mk "TextView" ([("paddingTop", "4dp")] ++ [("text", "a")])).contains n =
        false := by
    rintro n (rfl | halias)
    · decide +kernel
    · cases halias
  obtain ⟨v, hv, hopen⟩ : ∃ v, (Attributes.mk "TextView" ([("paddingTop", "4dp")] ++
      [("text", "a")])).view .text = .ok v ∧ v.frame.padding.leading = none := by
    decide +kernel
  obtain ⟨w, hw, hzero⟩ : ∃ w, (Attributes.mk "TextView" ([("paddingTop", "4dp")] ++
      ("padding", "0dp") :: [("text", "a")])).view .text = .ok w ∧
        w.frame.padding.leading = some (.dp Single.zero) := by
    decide +kernel
  have hdiffer : v.frame.padding.leading ≠ w.frame.padding.leading := by
    rw [hopen, hzero]
    exact (Option.some_ne_none _).symm
  refine ⟨hdefault, v, w, hv, hw, hdiffer, ?_⟩
  rcases view_default_interchangeable hdefault habsent with
    ⟨cause, hcause, -⟩ | ⟨v', w', hv', hw', hvw⟩
  · rw [hv] at hcause
    cases hcause
  · rw [Except.ok.inj (hv.symm.trans hv'), Except.ok.inj (hw.symm.trans hw')]
    exact hvw

end Document.Attributes

end LayoutCompose
