import LayoutCompose.Document.Attributes
import LayoutCompose.Proofs.Outcome

/-!
What is read to make a view.

A view is made by asking for attributes one after the other. Which attributes these are, by which
grammars their values are read and which of them have to be given depends on the kind of the view
alone. It is written down here as a list of readings for each kind, and making a view is followed
rule by rule to show that the list is right: a view fails as the first of its readings does, and
it depends on what its readings see and on nothing else.
-/

namespace LayoutCompose

open Outcome (failure?)

/-! ### Grammars -/

/-- The grammars by which the values of attributes are read. -/
inductive Grammar
  | id
  | extent
  | dimension
  | drawable
  | visibility
  | boolean
  | number
  | nonNegative
  | count
  | gravity
  | caption
  | color
  | textStyle
  | font
  | inputType
  | image
  | scaling
  | span
  | layout
  | orientation
  | target
  deriving DecidableEq

/-- What a grammar expects in place of a text that it does not accept. -/
def Grammar.refusal? : Grammar → String → Option Expectation
  | id, s => failure? (readId s)
  | extent, s => failure? (Extent.read s)
  | dimension, s => failure? (Dimension.read s)
  | drawable, s => failure? (Drawable.read s)
  | visibility, s => failure? (Visibility.read s)
  | boolean, s => failure? (readBool s)
  | number, s => failure? (Single.read s)
  | nonNegative, s => failure? (Single.readNonNegative s)
  | count, s => failure? (readCount s)
  | gravity, s => failure? (Gravity.read s)
  | caption, s => failure? (Caption.read s)
  | color, s => failure? (Color.read s)
  | textStyle, s => failure? (TextStyle.read s)
  | font, s => failure? (Font.read s)
  | inputType, s => failure? (InputType.read s)
  | image, s => failure? (Reference.readImage s)
  | scaling, s => failure? (Scaling.read s)
  | span, s => failure? (Span.read s)
  | layout, s => failure? (Reference.readLayout s)
  | orientation, s => failure? (Orientation.read s)
  | target, s => failure? (Target.read s)

namespace Document

/-! ### Readings -/

/-- A question for an attribute: its name, perhaps a second name to look under where there is
nothing under the first, and the grammar of its values. -/
structure Reading where
  name : String
  grammar : Grammar
  second : Option String := none
  required : Bool := false

namespace Reading

def names (r : Reading) : List String :=
  r.name :: r.second.toList

/-- The name under which a reading finds something, with the value that stands there. -/
def seen (r : Reading) (attrs : Attributes) : Option (String × String) :=
  match attrs.entries.lookup r.name with
  | some raw => some (r.name, raw)
  | none => r.second.bind fun name => (attrs.entries.lookup name).map fun raw => (name, raw)

def failure? (r : Reading) (attrs : Attributes) : Option Cause :=
  match r.seen attrs with
  | some (name, raw) => (r.grammar.refusal? raw).map (.invalidValue attrs.tag name raw)
  | none => if r.required then some (.missingAttribute attrs.tag r.name) else none

def value {α : Type} (read : String → Except Expectation α) (tag : String) :
    Option (String × String) → Except Cause (Option α)
  | none => .ok none
  | some (name, raw) =>
    match read raw with
    | .ok a => .ok (some a)
    | .error e => .error (.invalidValue tag name raw e)

end Reading

namespace Attributes

theorem get_eq_value {α : Type} (attrs : Attributes) (name : String) (g : Grammar)
    (read : String → Except Expectation α) : attrs.get name read =
      Reading.value read attrs.tag (({ name, grammar := g } : Reading).seen attrs) := by
  rw [get, Reading.seen]
  cases attrs.entries.lookup name <;> rfl

/-- The second name is asked for only where there is nothing under the first. -/
theorem either_eq_value {α : Type} (attrs : Attributes) (name other : String) (g : Grammar)
    (read : String → Except Expectation α) : attrs.either name other read =
      Reading.value read attrs.tag
        (({ name, grammar := g, second := some other } : Reading).seen attrs) := by
  rw [either, get_eq_value attrs name g, Reading.seen, Reading.seen]
  cases attrs.entries.lookup name with
  | some raw =>
      change (Reading.value read attrs.tag (some (name, raw)) >>= _) = _
      dsimp only [Reading.value]
      cases read raw <;> rfl
  | none =>
      change attrs.get other read = _
      rw [get]
      dsimp only [Option.bind_some]
      cases attrs.entries.lookup other <;> rfl

/-- A computation on attributes makes the readings of a list, in their order, and no others. -/
structure Reads {α : Type} (rs : List Reading) (f : Attributes → Except Cause α) : Prop where
  failure : ∀ attrs, failure? (f attrs) = rs.findSome? (·.failure? attrs)
  congr : ∀ attrs others, attrs.tag = others.tag → (∀ r ∈ rs, r.seen attrs = r.seen others) →
    f attrs = f others

namespace Reads

variable {α β : Type} {rs ss : List Reading}

theorem pure (a : α) : Reads [] fun _ => Pure.pure a :=
  ⟨fun _ => rfl, fun _ _ _ _ => rfl⟩

theorem ofTag (f : String → α) : Reads [] fun attrs => Pure.pure (f attrs.tag) :=
  ⟨fun _ => rfl, fun _ _ htag _ => by rw [htag]⟩

theorem bind {f : Attributes → Except Cause α} {g : α → Attributes → Except Cause β}
    (hf : Reads rs f) (hg : ∀ a, Reads ss (g a)) :
    Reads (rs ++ ss) fun attrs => f attrs >>= fun a => g a attrs where
  failure attrs := by
    rw [List.findSome?_append, ← hf.failure, Outcome.failure?_bind]
    cases hx : f attrs with
    | error e => rfl
    | ok a => exact (hg a).failure attrs
  congr attrs others htag h := by
    rw [List.forall_mem_append] at h
    rw [hf.congr attrs others htag h.1]
    exact bind_congr fun a => (hg a).congr attrs others htag h.2

theorem map {f : Attributes → Except Cause α} (hf : Reads rs f) (g : α → β) :
    Reads rs fun attrs => f attrs >>= fun a => Pure.pure (g a) :=
  List.append_nil rs ▸ hf.bind fun a => pure (g a)

variable {read : String → Except Expectation α} {g : Grammar}

/-- One question, where an attribute that is not given has no value. -/
theorem single {r : Reading} {f : Attributes → Except Cause (Option α)}
    (hf : ∀ attrs, f attrs = Reading.value read attrs.tag (r.seen attrs))
    (hg : ∀ s, r.grammar.refusal? s = Outcome.failure? (read s)) (hr : r.required = false) :
    Reads [r] f where
  failure attrs := by
    rw [hf, List.findSome?_singleton, Reading.failure?, hr]
    cases r.seen attrs with
    | none => rfl
    | some p =>
        dsimp only [Reading.value]
        rw [hg]
        cases read p.2 <;> rfl
  congr attrs others htag h := by
    rw [hf, hf, htag, h r (List.mem_singleton_self r)]

/-- One question, where an attribute that is not given is missing. -/
theorem single_require {r : Reading} {f : Attributes → Except Cause (Option α)}
    (hf : ∀ attrs, f attrs = Reading.value read attrs.tag (r.seen attrs))
    (hg : ∀ s, r.grammar.refusal? s = Outcome.failure? (read s)) (hr : r.required = true) :
    Reads [r] fun attrs => f attrs >>= attrs.require r.name where
  failure attrs := by
    rw [hf, List.findSome?_singleton, Reading.failure?, hr]
    cases r.seen attrs with
    | none => rfl
    | some p =>
        dsimp only [Reading.value]
        rw [hg]
        cases read p.2 <;> rfl
  congr attrs others htag h := by
    have hrequire : attrs.require (α := α) r.name = others.require r.name := by
      funext a?
      cases a? with
      | none => rw [require, require, htag]
      | some a => rfl
    rw [hf, hf, htag, h r (List.mem_singleton_self r), hrequire]

variable (name other : String) (hg : ∀ s, g.refusal? s = Outcome.failure? (read s))

include hg

theorem get : Reads [{ name, grammar := g }] fun attrs => attrs.get name read :=
  single (fun attrs => get_eq_value attrs name g read) hg rfl

theorem getD (a : α) : Reads [{ name, grammar := g }] fun attrs => attrs.getD name read a :=
  (get name hg).map fun a? => a?.getD a

theorem either : Reads [{ name, grammar := g, second := some other }]
    fun attrs => attrs.either name other read :=
  single (fun attrs => either_eq_value attrs name other g read) hg rfl

end Reads

end Attributes

/-! ### The readings of a kind -/

namespace Reading

def ties (table : List (String × Anchor × Anchor)) : List Reading :=
  table.map fun (name, _) => { name, grammar := .target }

def sides (base : String) : List Reading :=
  [{ name := base, grammar := .dimension },
    { name := base ++ "Horizontal", grammar := .dimension },
    { name := base ++ "Vertical", grammar := .dimension },
    { name := base ++ "Start", grammar := .dimension, second := some (base ++ "Left") },
    { name := base ++ "End", grammar := .dimension, second := some (base ++ "Right") },
    { name := base ++ "Top", grammar := .dimension },
    { name := base ++ "Bottom", grammar := .dimension }]

def frame : List Reading :=
  ties Constraint.attributes ++
    [{ name := "id", grammar := .id },
      { name := "layout_width", grammar := .extent },
      { name := "layout_height", grammar := .extent }] ++
    sides "padding" ++ sides "layout_margin" ++
    [{ name := "background", grammar := .drawable },
      { name := "visibility", grammar := .visibility },
      { name := "enabled", grammar := .boolean },
      { name := "alpha", grammar := .number },
      { name := "layout_weight", grammar := .nonNegative },
      { name := "layout_gravity", grammar := .gravity },
      { name := "contentDescription", grammar := .caption }]

def inclusionFrame : List Reading :=
  [{ name := "id", grammar := .id }, { name := "visibility", grammar := .visibility }]

def folded (fold : Bool) : List Reading :=
  if fold then [{ name := "singleLine", grammar := .boolean }] else []

def textProps (fold : Bool) : List Reading :=
  [{ name := "maxLines", grammar := .count }] ++ folded fold ++
    [{ name := "text", grammar := .caption },
      { name := "textColor", grammar := .color },
      { name := "textSize", grammar := .dimension },
      { name := "textStyle", grammar := .textStyle },
      { name := "fontFamily", grammar := .font },
      { name := "gravity", grammar := .gravity }]

def track : List Reading :=
  [{ name := "valueFrom", grammar := .number, second := some "min" },
    { name := "valueTo", grammar := .number, second := some "max" },
    { name := "stepSize", grammar := .nonNegative }]

def toggle : List Reading :=
  [{ name := "text", grammar := .caption }, { name := "checked", grammar := .boolean }]

def gravity : Reading :=
  { name := "gravity", grammar := .gravity }

def orientation : Reading :=
  { name := "orientation", grammar := .orientation }

def source : Reading :=
  { name := "src", grammar := .image, second := some "srcCompat", required := true }

def layout : Reading :=
  { name := "layout", grammar := .layout, required := true }

def own : Kind → List Reading
  | .text | .button => textProps true
  | .field =>
    textProps false ++
      [{ name := "hint", grammar := .caption },
        { name := "inputType", grammar := .inputType },
        { name := "singleLine", grammar := .boolean }]
  | .image => [source, { name := "scaleType", grammar := .scaling }]
  | .checkBox | .radioButton | .switch => toggle
  | .rangeSlider => track ++ [{ name := "values", grammar := .span }]
  | .slider => track ++ [{ name := "value", grammar := .number, second := some "progress" }]
  | .inclusion => [layout]
  | .row | .column | .box => [gravity]
  | .linear | .radioGroup => [gravity, orientation]
  | .card =>
    [{ name := "cardCornerRadius", grammar := .dimension },
      { name := "cardBackgroundColor", grammar := .color },
      { name := "cardElevation", grammar := .dimension }]
  | .plain | .scroll | .constraint => []

/-- The readings of a kind, in the order in which they are made. -/
def ofKind (kind : Kind) : List Reading :=
  (if kind = .inclusion then inclusionFrame else frame) ++ own kind

end Reading

namespace Attributes

open Reads

theorem reads_constraintsFrom (table : List (String × Anchor × Anchor)) :
    Reads (Reading.ties table) fun attrs => attrs.constraintsFrom table := by
  induction table with
  | nil => exact .pure []
  | cons row table ih =>
      refine .bind (.get row.1 fun _ => rfl) fun target => ?_
      cases target with
      | none => exact ih.map _
      | some target => exact ih.map _

theorem reads_edges (base : String) :
    Reads (Reading.sides base) fun attrs => attrs.edges base := by
  refine .bind (.get _ fun _ => rfl) fun all => ?_
  refine .bind (.get _ fun _ => rfl) fun horizontal => ?_
  refine .bind (.get _ fun _ => rfl) fun vertical => ?_
  refine .bind (.either _ _ fun _ => rfl) fun leading => ?_
  refine .bind (.either _ _ fun _ => rfl) fun trailing => ?_
  refine .bind (.get _ fun _ => rfl) fun top => ?_
  refine .bind (.get _ fun _ => rfl) fun bottom => ?_
  exact .pure _

theorem reads_frame : Reads Reading.frame fun attrs => attrs.frame := by
  simp only [Reading.frame, List.append_assoc, List.cons_append, List.nil_append]
  refine .bind (reads_constraintsFrom _) fun constraints => ?_
  refine .bind (.get "id" fun _ => rfl) fun id => ?_
  refine .bind (.getD _ (fun _ => rfl) _) fun width => ?_
  refine .bind (.getD _ (fun _ => rfl) _) fun height => ?_
  refine .bind (reads_edges "padding") fun padding => ?_
  refine .bind (reads_edges "layout_margin") fun margin => ?_
  refine .bind (.get _ fun _ => rfl) fun background => ?_
  refine .bind (.getD _ (fun _ => rfl) _) fun visibility => ?_
  refine .bind (.getD _ (fun _ => rfl) _) fun enabled => ?_
  refine .bind (.getD _ (fun _ => rfl) _) fun alpha => ?_
  refine .bind (.getD _ (fun _ => rfl) _) fun weight => ?_
  refine .bind (.getD _ (fun _ => rfl) _) fun gravity => ?_
  refine .bind (.get _ fun _ => rfl) fun description => ?_
  exact .pure _

theorem reads_inclusionFrame :
    Reads Reading.inclusionFrame fun attrs => attrs.inclusionFrame := by
  refine .bind (.get "id" fun _ => rfl) fun id => ?_
  refine .bind (.getD _ (fun _ => rfl) _) fun visibility => ?_
  exact .pure _

theorem reads_frameOf (kind : Kind) :
    Reads (if kind = .inclusion then Reading.inclusionFrame else Reading.frame)
      fun attrs => attrs.frameOf kind := by
  unfold frameOf
  split
  · exact reads_inclusionFrame
  · exact reads_frame

theorem reads_isFolded (fold : Bool) :
    Reads (Reading.folded fold) fun attrs => attrs.isFolded fold := by
  cases fold with
  | false => exact .pure false
  | true => exact .getD _ (fun _ => rfl) false

theorem reads_textProps (fold : Bool) :
    Reads (Reading.textProps fold) fun attrs => attrs.textProps fold := by
  simp only [Reading.textProps, List.append_assoc]
  refine .bind (.get "maxLines" fun _ => rfl) fun maxLines => ?_
  refine .bind (reads_isFolded fold) fun singleLine => ?_
  refine .bind (.getD _ (fun _ => rfl) _) fun text => ?_
  refine .bind (.get _ fun _ => rfl) fun color => ?_
  refine .bind (.get _ fun _ => rfl) fun size => ?_
  refine .bind (.getD _ (fun _ => rfl) _) fun style => ?_
  refine .bind (.get _ fun _ => rfl) fun font => ?_
  refine .bind (.get _ fun _ => rfl) fun gravity => ?_
  exact .pure _

theorem reads_track : Reads Reading.track fun attrs => attrs.track := by
  refine .bind (.either _ _ fun _ => rfl) fun lower => ?_
  refine .bind (.either _ _ fun _ => rfl) fun upper => ?_
  refine .bind (.getD _ (fun _ => rfl) _) fun step => ?_
  exact .pure _

theorem reads_toggle (form : ToggleForm) :
    Reads Reading.toggle fun attrs => attrs.toggle form := by
  refine .bind (.getD _ (fun _ => rfl) _) fun label => ?_
  refine .bind (.getD _ (fun _ => rfl) _) fun checked => ?_
  exact .pure _

theorem reads_gravity : Reads [Reading.gravity] fun attrs => attrs.gravity :=
  .getD _ (fun _ => rfl) _

theorem reads_orientation (usual : Orientation) :
    Reads [Reading.orientation] fun attrs => attrs.getD "orientation" Orientation.read usual :=
  .getD _ (fun _ => rfl) _

theorem reads_source : Reads [Reading.source] fun attrs =>
    attrs.either "src" "srcCompat" Reference.readImage >>= attrs.require "src" :=
  single_require (r := Reading.source) (fun attrs => either_eq_value attrs _ _ .image _)
    (fun _ => rfl) rfl

theorem reads_layout : Reads [Reading.layout] fun attrs =>
    attrs.get "layout" Reference.readLayout >>= attrs.require "layout" := by
  refine single_require (r := Reading.layout) (fun attrs => ?_) (fun _ => rfl) rfl
  rw [get_eq_value attrs "layout" .layout]
  rfl

/-- The readings of a kind are those that making a view of it takes. -/
theorem reads_view (kind : Kind) : Reads (Reading.ofKind kind) fun attrs => attrs.view kind := by
  refine .bind (reads_frameOf kind) fun frame => ?_
  cases kind with
  | text => exact (reads_textProps true).map _
  | button => exact (reads_textProps true).map _
  | field =>
      refine .bind (reads_textProps false) fun text => ?_
      refine .bind (.get _ fun _ => rfl) fun hint => ?_
      refine .bind (.getD _ (fun _ => rfl) _) fun input => ?_
      exact .map (.getD _ (fun _ => rfl) _) _
  | image =>
      have hview := reads_source.bind fun source =>
        (Reads.getD "scaleType" (g := .scaling) (fun _ => rfl) .fitCenter).map fun scaling =>
          View.control frame (.image source scaling)
      simp only [bind_assoc] at hview
      exact hview
  | checkBox => exact (reads_toggle .checkBox).map _
  | radioButton => exact (reads_toggle .radioButton).map _
  | switch => exact (reads_toggle .switch).map _
  | rangeSlider =>
      refine .bind reads_track fun track => ?_
      exact .map (.get _ fun _ => rfl) _
  | slider =>
      refine .bind reads_track fun track => ?_
      exact .map (.either _ _ fun _ => rfl) _
  | plain => exact .pure _
  | inclusion =>
      have hview := reads_layout.map fun layout => View.control frame (.inclusion layout)
      simp only [bind_assoc] at hview
      exact hview
  | row => exact reads_gravity.map _
  | column => exact reads_gravity.map _
  | box => exact reads_gravity.map _
  | linear =>
      refine .bind reads_gravity fun gravity => ?_
      exact (reads_orientation .horizontal).map _
  | radioGroup =>
      refine .bind reads_gravity fun gravity => ?_
      exact (reads_orientation .vertical).map _
  | card =>
      refine .bind (.get _ fun _ => rfl) fun corner => ?_
      refine .bind (.get _ fun _ => rfl) fun color => ?_
      exact .map (.get _ fun _ => rfl) _
  | scroll =>
      exact .ofTag fun tag => View.group frame (.scroll (tag == "HorizontalScrollView")) []
  | constraint => exact .pure _

end Attributes

end Document

end LayoutCompose
