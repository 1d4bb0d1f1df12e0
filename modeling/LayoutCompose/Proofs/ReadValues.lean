import LayoutCompose.Proofs.Element
import LayoutCompose.Proofs.Views

/-!
What reading makes sure of.

Every value of a view that is read from a document has passed the grammar of its attribute. So
references have names and the kinds that their places ask for, identifiers are names, numbers
are finite and ranges have their bounds in order. The facts are shown for each grammar, then for
the attributes of an element, and from there they hold for every view of a layout.
-/

namespace LayoutCompose

/-! ### Values -/

/-- A reference with a proper name to a resource of one of the given kinds. -/
structure Reference.IsOf (kinds : List String) (r : Reference) : Prop where
  kind : r.kind ∈ kinds
  name : Text.isName r.name.toList = true

theorem Reference.readPath?_name {framework : Bool} {cs : List Char} {r : Reference}
    (h : readPath? framework cs = some r) : Text.isName r.name.toList = true := by
  rw [readPath?, Option.bind_eq_some_iff] at h
  obtain ⟨⟨kind, name⟩, -, h⟩ := h
  dsimp only at h
  split at h
  · rename_i hname
    obtain rfl := Option.some.inj h
    simpa using (Bool.and_eq_true_iff.mp hname).2
  · exact nomatch h

theorem Reference.read?_name {s : String} {r : Reference} (h : read? s = some r) :
    Text.isName r.name.toList = true := by
  unfold read? at h
  split at h
  · dsimp only at h
    split at h
    · exact readPath?_name h
    · exact readPath?_name h
  · exact nomatch h

theorem Reference.isOf_of_ofKinds? {kinds : List String} {s : String} {r : Reference}
    (h : ofKinds? kinds s = some r) : r.IsOf kinds := by
  obtain ⟨hread, hkind⟩ := Option.filter_eq_some_iff.mp h
  exact ⟨List.contains_iff_mem.mp hkind, read?_name hread⟩

theorem Reference.isOf_of_readImage {s : String} {r : Reference} (h : readImage s = .ok r) :
    r.IsOf ["drawable", "mipmap"] := by
  unfold readImage at h
  split at h
  · rename_i hread
    obtain rfl := Except.ok.inj h
    exact isOf_of_ofKinds? hread
  · exact nomatch h

theorem Reference.isOf_of_readLayout {s : String} {r : Reference} (h : readLayout s = .ok r) :
    r.IsOf ["layout"] := by
  unfold readLayout at h
  split at h
  · rename_i hread
    obtain rfl := Except.ok.inj h
    exact isOf_of_ofKinds? hread
  · exact nomatch h

theorem isName_of_readId {s id : String} (h : readId s = .ok id) :
    Text.isName id.toList = true := by
  unfold readId at h
  split at h
  · rename_i hread
    obtain rfl := Except.ok.inj h
    exact (Reference.isOf_of_ofKinds? hread).name
  · exact nomatch h

theorem Single.isFinite_of_read {s : String} {x : Single} (h : Single.read s = .ok x) :
    x.isFinite = true := by
  unfold Single.read at h
  dsimp only at h
  split at h
  · split at h
    · rename_i hfinite
      obtain rfl := Except.ok.inj h
      exact (Bool.and_eq_true_iff.mp hfinite).1
    · exact nomatch h
  · exact nomatch h

theorem Single.of_readNonNegative {s : String} {x : Single}
    (h : Single.readNonNegative s = .ok x) : x.isFinite = true ∧ Single.zero.le x = true := by
  unfold Single.readNonNegative at h
  split at h
  · rename_i hread
    split at h
    · rename_i hle
      obtain rfl := Except.ok.inj h
      exact ⟨isFinite_of_read hread, hle⟩
    · exact nomatch h
  · exact nomatch h

/-- A finite number of units, or a resource for dimensions. -/
def Dimension.Proper : Dimension → Prop
  | dp x | sp x | px x => x.isFinite = true
  | resource r => r.IsOf ["dimen"]

theorem Dimension.proper_of_ofUnit? {x : Single} {unit : List Char} {d : Dimension}
    (hx : x.isFinite = true) (h : ofUnit? x unit = some d) : d.Proper := by
  unfold ofUnit? at h
  split at h
  all_goals simp only [Option.some.injEq, reduceCtorEq] at h
  all_goals
    subst h
    exact hx

theorem Dimension.proper_of_read? {s : String} {d : Dimension} (h : read? s = some d) :
    d.Proper := by
  unfold read? at h
  dsimp only at h
  split at h
  · obtain ⟨r, hr, rfl⟩ := Option.map_eq_some_iff.mp h
    exact Reference.isOf_of_ofKinds? hr
  · unfold ofNumeral? at h
    split at h
    · rename_i hread
      exact proper_of_ofUnit? (Single.isFinite_of_read hread) h
    · exact nomatch h

theorem Dimension.proper_of_read {s : String} {d : Dimension} (h : Dimension.read s = .ok d) :
    d.Proper := by
  unfold Dimension.read at h
  split at h
  · rename_i hread
    obtain rfl := Except.ok.inj h
    exact proper_of_read? hread
  · exact nomatch h

def Extent.Proper : Extent → Prop
  | fixed d => d.Proper
  | _ => True

theorem Extent.proper_of_read {s : String} {e : Extent} (h : Extent.read s = .ok e) :
    e.Proper := by
  unfold Extent.read at h
  split at h
  · rename_i hread
    obtain rfl := Except.ok.inj h
    unfold read? at hread
    dsimp only at hread
    split at hread
    · obtain rfl := Option.some.inj hread
      trivial
    · obtain rfl := Option.some.inj hread
      trivial
    · obtain rfl := Option.some.inj hread
      trivial
    · split at hread
      · unfold ofPercentage? at hread
        split at hread
        · dsimp only at hread
          split at hread
          · obtain rfl := Option.some.inj hread
            trivial
          · exact nomatch hread
        · exact nomatch hread
      · obtain ⟨d, hd, rfl⟩ := Option.map_eq_some_iff.mp hread
        exact Dimension.proper_of_read? hd
  · exact nomatch h

def Color.Proper : Color → Prop
  | resource r => r.IsOf ["color"]
  | _ => True

theorem Color.proper_of_read? {s : String} {c : Color} (h : read? s = some c) : c.Proper := by
  unfold read? at h
  split at h
  · obtain ⟨word, -, rfl⟩ := Option.map_eq_some_iff.mp h
    trivial
  · obtain ⟨color, -, rfl⟩ := Option.map_eq_some_iff.mp h
    trivial
  · obtain ⟨r, hr, rfl⟩ := Option.map_eq_some_iff.mp h
    exact Reference.isOf_of_ofKinds? hr

theorem Color.proper_of_read {s : String} {c : Color} (h : Color.read s = .ok c) : c.Proper := by
  unfold Color.read at h
  split at h
  · rename_i hread
    obtain rfl := Except.ok.inj h
    exact proper_of_read? hread
  · exact nomatch h

def Drawable.Proper : Drawable → Prop
  | color c => c.Proper
  | resource r => r.IsOf ["drawable", "mipmap"]

theorem Drawable.proper_of_read {s : String} {d : Drawable} (h : Drawable.read s = .ok d) :
    d.Proper := by
  unfold Drawable.read at h
  split at h
  · rename_i hread
    obtain rfl := Except.ok.inj h
    exact Color.proper_of_read? hread
  · split at h
    · rename_i hread
      obtain rfl := Except.ok.inj h
      exact Reference.isOf_of_readImage hread
    · exact nomatch h

def Caption.Proper : Caption → Prop
  | literal _ => True
  | resource r => r.IsOf ["string"]

theorem Caption.proper_of_read {s : String} {c : Caption} (h : Caption.read s = .ok c) :
    c.Proper := by
  unfold Caption.read at h
  split at h
  · split at h
    · rename_i hread
      obtain rfl := Except.ok.inj h
      exact Reference.isOf_of_ofKinds? hread
    · exact nomatch h
  · obtain rfl := Except.ok.inj h
    trivial

def Font.Proper : Font → Prop
  | resource r => r.IsOf ["font"]
  | _ => True

theorem Font.proper_of_read {s : String} {f : Font} (h : Font.read s = .ok f) : f.Proper := by
  unfold Font.read at h
  split at h
  · rename_i hread
    obtain rfl := Except.ok.inj h
    unfold read? at hread
    split at hread
    · obtain rfl := Option.some.inj hread
      trivial
    · obtain rfl := Option.some.inj hread
      trivial
    · obtain rfl := Option.some.inj hread
      trivial
    · split at hread
      · obtain rfl := Option.some.inj hread
        trivial
      · obtain ⟨r, hr, rfl⟩ := Option.map_eq_some_iff.mp hread
        exact Reference.isOf_of_ofKinds? hr
  · exact nomatch h

/-- A range between finite numbers that are in order. -/
structure Span.Proper (r : Span) : Prop where
  lower : r.lower.isFinite = true
  upper : r.upper.isFinite = true
  ordered : r.upper.lt r.lower = false

theorem Span.proper_of_read {s : String} {r : Span} (h : Span.read s = .ok r) : r.Proper := by
  unfold Span.read at h
  split at h
  · exact nomatch h
  · split at h
    · rename_i hlower hupper
      split at h
      · exact nomatch h
      · rename_i hlt
        obtain rfl := Except.ok.inj h
        exact ⟨Single.isFinite_of_read hlower, Single.isFinite_of_read hupper, by simpa using hlt⟩
    · exact nomatch h

/-- What a view is tied to is the parent or has a name. -/
def Target.Proper : Target → Prop
  | parent => True
  | sibling id => Text.isName id.toList = true

theorem Target.proper_of_read {s : String} {t : Target} (h : Target.read s = .ok t) :
    t.Proper := by
  unfold Target.read at h
  split at h
  · obtain rfl := Except.ok.inj h
    trivial
  · split at h
    · rename_i hread
      obtain rfl := Except.ok.inj h
      exact isName_of_readId hread
    · exact nomatch h

/-! ### Views -/

def Edges.Proper (e : Edges) : Prop :=
  ∀ side ∈ e.sides, ∀ d ∈ side, d.Proper

/-- The values of a frame that a document can give. -/
structure Frame.Proper (f : Frame) : Prop where
  id : ∀ id ∈ f.id, Text.isName id.toList = true
  width : f.width.Proper
  height : f.height.Proper
  padding : f.padding.Proper
  margin : f.margin.Proper
  background : ∀ d ∈ f.background, d.Proper
  alpha : f.alpha.isFinite = true
  weight : f.weight.isFinite = true ∧ Single.zero.le f.weight = true
  description : ∀ c ∈ f.description, c.Proper
  constraints : ∀ c ∈ f.constraints, c.target.Proper

structure TextProps.Proper (p : TextProps) : Prop where
  text : p.text.Proper
  color : ∀ c ∈ p.color, c.Proper
  size : ∀ d ∈ p.size, d.Proper
  font : ∀ f ∈ p.font, f.Proper

structure Track.Proper (t : Track) : Prop where
  lower : t.lower.isFinite = true
  upper : t.upper.isFinite = true
  step : t.step.isFinite = true ∧ Single.zero.le t.step = true

def Control.Proper : Control → Prop
  | text props | button props => props.Proper
  | field props hint _ _ => props.Proper ∧ ∀ c ∈ hint, c.Proper
  | image source _ => source.IsOf ["drawable", "mipmap"]
  | toggle _ label _ => label.Proper
  | rangeSlider track values => track.Proper ∧ ∀ r ∈ values, r.Proper
  | slider track value => track.Proper ∧ ∀ x ∈ value, x.isFinite = true
  | plain => True
  | inclusion layout => layout.IsOf ["layout"]

def Group.Proper : Group → Prop
  | card corner color elevation =>
      (∀ d ∈ corner, d.Proper) ∧ (∀ c ∈ color, c.Proper) ∧ ∀ d ∈ elevation, d.Proper
  | _ => True

/-- A view with values that a document can give; nothing is said of its children. -/
def View.Proper : View → Prop
  | control f c => f.Proper ∧ c.Proper
  | group f g _ => f.Proper ∧ g.Proper

theorem View.Proper.frame {v : View} (h : v.Proper) : v.frame.Proper := by
  cases v with
  | control f c => exact h.1
  | group f g vs => exact h.1

namespace Document.Attributes

variable {α : Type} {P : α → Prop} {attrs : Attributes} {name other : String}
  {read : String → Except Expectation α}

theorem of_get (hread : ∀ s a, read s = .ok a → P a) {value : Option α}
    (h : attrs.get name read = .ok value) : ∀ a ∈ value, P a := by
  unfold get at h
  split at h
  · obtain rfl := Except.ok.inj h
    exact fun a ha => nomatch ha
  · split at h
    · rename_i hok
      obtain rfl := Except.ok.inj h
      intro a ha
      obtain rfl := Option.some.inj ha
      exact hread _ _ hok
    · exact nomatch h

theorem of_getD (hread : ∀ s a, read s = .ok a → P a) {default value : α}
    (h : attrs.getD name read default = .ok value) (hdefault : P default) : P value := by
  rw [getD, Outcome.bind_eq_ok] at h
  obtain ⟨found, hget, hvalue⟩ := h
  rw [Outcome.pure_eq_ok] at hvalue
  subst hvalue
  cases found with
  | none => exact hdefault
  | some a => exact of_get hread hget a rfl

theorem of_either (hread : ∀ s a, read s = .ok a → P a) {value : Option α}
    (h : attrs.either name other read = .ok value) : ∀ a ∈ value, P a := by
  rw [either, Outcome.bind_eq_ok] at h
  obtain ⟨found, hget, h⟩ := h
  cases found with
  | none => exact of_get hread h
  | some a =>
      rw [Outcome.pure_eq_ok] at h
      subst h
      exact of_get hread hget

theorem of_require {value : Option α} {a : α} (h : attrs.require name value = .ok a) :
    value = some a := by
  cases value with
  | none => exact nomatch h
  | some b => exact congrArg some (Except.ok.inj h)

theorem of_constraintsFrom {table : List (String × Anchor × Anchor)} {cs : List Constraint}
    (h : attrs.constraintsFrom table = .ok cs) : ∀ c ∈ cs, c.target.Proper := by
  induction table generalizing cs with
  | nil =>
      obtain rfl := Except.ok.inj h
      exact fun c hc => nomatch hc
  | cons row table ih =>
      obtain ⟨name, anchor, targetAnchor⟩ := row
      simp only [constraintsFrom, Outcome.bind_eq_ok] at h
      obtain ⟨target, htarget, rest, hrest, h⟩ := h
      cases target with
      | none =>
          rw [Outcome.pure_eq_ok] at h
          subst h
          exact ih hrest
      | some target =>
          rw [Outcome.pure_eq_ok] at h
          subst h
          intro c hc
          rcases List.mem_cons.mp hc with rfl | hc
          · exact of_get (fun _ _ => Target.proper_of_read) htarget target rfl
          · exact ih hrest c hc

theorem of_orElse {a b : Option α} (ha : ∀ x ∈ a, P x) (hb : ∀ x ∈ b, P x) :
    ∀ x ∈ (a <|> b), P x := by
  cases a with
  | none => simpa using hb
  | some x => simpa using ha

theorem of_edges {base : String} {e : Edges} (h : attrs.edges base = .ok e) : e.Proper := by
  simp only [edges, Outcome.bind_eq_ok, Outcome.pure_eq_ok] at h
  obtain ⟨all, hall, horizontal, hhorizontal, vertical, hvertical, leading, hleading, trailing,
    htrailing, top, htop, bottom, hbottom, rfl⟩ := h
  have hread : ∀ s d, Dimension.read s = .ok d → d.Proper := fun _ _ => Dimension.proper_of_read
  have hall := of_get hread hall
  have hhorizontal := of_get hread hhorizontal
  have hvertical := of_get hread hvertical
  have hleading := of_either hread hleading
  have htrailing := of_either hread htrailing
  have htop := of_get hread htop
  have hbottom := of_get hread hbottom
  intro side hside
  simp only [Edges.sides, List.mem_cons, List.not_mem_nil, or_false] at hside
  rcases hside with rfl | rfl | rfl | rfl
  · exact of_orElse hleading (of_orElse hhorizontal hall)
  · exact of_orElse htop (of_orElse hvertical hall)
  · exact of_orElse htrailing (of_orElse hhorizontal hall)
  · exact of_orElse hbottom (of_orElse hvertical hall)

theorem of_frame {f : Frame} (h : attrs.frame = .ok f) : f.Proper := by
  simp only [frame, Outcome.bind_eq_ok, Outcome.pure_eq_ok] at h
  obtain ⟨constraints, hconstraints, id, hid, width, hwidth, height, hheight, padding, hpadding,
    margin, hmargin, background, hbackground, visibility, -, enabled, -, alpha, halpha, weight,
    hweight, gravity, -, description, hdescription, rfl⟩ := h
  exact {
    id := of_get (fun _ _ => isName_of_readId) hid
    width := of_getD (fun _ _ => Extent.proper_of_read) hwidth trivial
    height := of_getD (fun _ _ => Extent.proper_of_read) hheight trivial
    padding := of_edges hpadding
    margin := of_edges hmargin
    background := of_get (fun _ _ => Drawable.proper_of_read) hbackground
    alpha := of_getD (fun _ _ => Single.isFinite_of_read) halpha rfl
    weight := of_getD (fun _ _ => Single.of_readNonNegative) hweight ⟨rfl, rfl⟩
    description := of_get (fun _ _ => Caption.proper_of_read) hdescription
    constraints := of_constraintsFrom hconstraints }

theorem of_inclusionFrame {f : Frame} (h : attrs.inclusionFrame = .ok f) : f.Proper := by
  simp only [inclusionFrame, Outcome.bind_eq_ok, Outcome.pure_eq_ok] at h
  obtain ⟨id, hid, visibility, -, rfl⟩ := h
  exact {
    id := of_get (fun _ _ => isName_of_readId) hid
    width := trivial
    height := trivial
    padding := by simp [Edges.Proper, Edges.sides]
    margin := by simp [Edges.Proper, Edges.sides]
    background := by simp
    alpha := rfl
    weight := ⟨rfl, rfl⟩
    description := by simp
    constraints := by simp }

theorem of_textProps {fold : Bool} {p : TextProps} (h : attrs.textProps fold = .ok p) :
    p.Proper := by
  simp only [textProps, Outcome.bind_eq_ok, Outcome.pure_eq_ok] at h
  obtain ⟨maxLines, -, singleLine, -, text, htext, color, hcolor, size, hsize, style, -, font,
    hfont, gravity, -, rfl⟩ := h
  exact {
    text := of_getD (fun _ _ => Caption.proper_of_read) htext trivial
    color := of_get (fun _ _ => Color.proper_of_read) hcolor
    size := of_get (fun _ _ => Dimension.proper_of_read) hsize
    font := of_get (fun _ _ => Font.proper_of_read) hfont }

theorem of_track {t : Track} (h : attrs.track = .ok t) : t.Proper := by
  simp only [track, Outcome.bind_eq_ok, Outcome.pure_eq_ok] at h
  obtain ⟨lower, hlower, upper, hupper, step, hstep, rfl⟩ := h
  have hlower := of_either (fun _ _ => Single.isFinite_of_read) hlower
  have hupper := of_either (fun _ _ => Single.isFinite_of_read) hupper
  refine ⟨?_, ?_, of_getD (fun _ _ => Single.of_readNonNegative) hstep ⟨rfl, rfl⟩⟩
  · cases lower with
    | none => rfl
    | some x => exact hlower x rfl
  · cases upper with
    | none => rfl
    | some x => exact hupper x rfl

theorem of_toggle {form : ToggleForm} {c : Control} (h : attrs.toggle form = .ok c) :
    c.Proper := by
  simp only [toggle, Outcome.bind_eq_ok, Outcome.pure_eq_ok] at h
  obtain ⟨label, hlabel, checked, -, rfl⟩ := h
  exact of_getD (fun _ _ => Caption.proper_of_read) hlabel trivial

/-- Attributes make only views with proper values. -/
theorem of_view {kind : Kind} {v : View} (h : attrs.view kind = .ok v) : v.Proper := by
  rw [view, Outcome.bind_eq_ok] at h
  obtain ⟨f, hframe, h⟩ := h
  have hf : f.Proper := by
    unfold frameOf at hframe
    split at hframe
    · exact of_inclusionFrame hframe
    · exact of_frame hframe
  cases kind with
  | text | button =>
      simp only [Outcome.bind_eq_ok, Outcome.pure_eq_ok] at h
      obtain ⟨props, hprops, rfl⟩ := h
      exact ⟨hf, of_textProps hprops⟩
  | field =>
      simp only [Outcome.bind_eq_ok, Outcome.pure_eq_ok] at h
      obtain ⟨props, hprops, hint, hhint, input, -, singleLine, -, rfl⟩ := h
      exact ⟨hf, of_textProps hprops, of_get (fun _ _ => Caption.proper_of_read) hhint⟩
  | image =>
      simp only [Outcome.bind_eq_ok, Outcome.pure_eq_ok] at h
      obtain ⟨source, hsource, r, hr, scaling, -, rfl⟩ := h
      exact ⟨hf, of_either (fun _ _ => Reference.isOf_of_readImage) hsource r (of_require hr)⟩
  | checkBox | radioButton | switch =>
      simp only [Outcome.bind_eq_ok, Outcome.pure_eq_ok] at h
      obtain ⟨c, hc, rfl⟩ := h
      exact ⟨hf, of_toggle hc⟩
  | rangeSlider =>
      simp only [Outcome.bind_eq_ok, Outcome.pure_eq_ok] at h
      obtain ⟨t, ht, values, hvalues, rfl⟩ := h
      exact ⟨hf, of_track ht, of_get (fun _ _ => Span.proper_of_read) hvalues⟩
  | slider =>
      simp only [Outcome.bind_eq_ok, Outcome.pure_eq_ok] at h
      obtain ⟨t, ht, value, hvalue, rfl⟩ := h
      exact ⟨hf, of_track ht, of_either (fun _ _ => Single.isFinite_of_read) hvalue⟩
  | plain =>
      rw [Outcome.pure_eq_ok] at h
      subst h
      exact ⟨hf, trivial⟩
  | inclusion =>
      simp only [Outcome.bind_eq_ok, Outcome.pure_eq_ok] at h
      obtain ⟨layout, hlayout, r, hr, rfl⟩ := h
      exact ⟨hf, of_get (fun _ _ => Reference.isOf_of_readLayout) hlayout r (of_require hr)⟩
  | card =>
      simp only [Outcome.bind_eq_ok, Outcome.pure_eq_ok] at h
      obtain ⟨corner, hcorner, color, hcolor, elevation, helevation, rfl⟩ := h
      exact ⟨hf, of_get (fun _ _ => Dimension.proper_of_read) hcorner,
        of_get (fun _ _ => Color.proper_of_read) hcolor,
        of_get (fun _ _ => Dimension.proper_of_read) helevation⟩
  | row | column | box =>
      simp only [Outcome.bind_eq_ok, Outcome.pure_eq_ok] at h
      obtain ⟨gravity, -, rfl⟩ := h
      exact ⟨hf, trivial⟩
  | linear | radioGroup =>
      simp only [Outcome.bind_eq_ok, Outcome.pure_eq_ok] at h
      obtain ⟨gravity, -, orientation, -, rfl⟩ := h
      exact ⟨hf, trivial⟩
  | scroll | constraint =>
      rw [Outcome.pure_eq_ok] at h
      subst h
      exact ⟨hf, trivial⟩

end Document.Attributes

/-! ### Layouts -/

open Document (Attributes Element)

/-- A property holds of every view that attributes make, whatever children it is given. -/
def View.HoldsOfMade (P : View → Prop) : Prop :=
  ∀ (attrs : Attributes) kind v vs, attrs.view kind = .ok v → P (v.withChildren vs)

mutual

theorem View.everywhere_of_gives {P : View → Prop} {strict : Bool} {e : Element} {v : View}
    (hP : View.HoldsOfMade P) (h : e.Gives strict v) : v.Everywhere P := by
  cases e with
  | node tag children =>
      obtain ⟨kind, bare, vs, ⟨-, attrs, -, hview⟩, -, hvs, rfl⟩ := h
      have hself := hP attrs kind bare vs hview
      cases bare with
      | control f c => exact hself
      | group f g us => exact ⟨hself, View.everywhereAll_of_giveAll hP hvs⟩

theorem View.everywhereAll_of_giveAll {P : View → Prop} {strict : Bool} {es : List Element}
    {vs : List View} (hP : View.HoldsOfMade P) (h : Element.GiveAll strict es vs) :
    View.EverywhereAll P vs := by
  cases es with
  | nil =>
      obtain rfl := Element.giveAll_nil h
      trivial
  | cons e es =>
      cases vs with
      | nil => exact h.elim
      | cons v vs =>
          exact ⟨View.everywhere_of_gives hP h.1, View.everywhereAll_of_giveAll hP h.2⟩

end

/-- What holds of all views that attributes make holds of all views of a layout that is read. -/
theorem Layout.everywhere_of_read {P : View → Prop} {strict : Bool} {source : String}
    {layout : Layout} (hP : View.HoldsOfMade P)
    (h : (Layout.read strict source).result = .ok layout) :
    View.EverywhereAll P layout.roots := by
  rw [Layout.read, Noted.result_mapError, Outcome.mapError_eq_ok, Document.readUnmarked,
    Document.ofEvents_eq_ok_iff_spelled] at h
  obtain ⟨-, root, -, hgives⟩ := h
  unfold Element.GivesRoots at hgives
  split at hgives
  · exact View.everywhereAll_of_giveAll hP (Element.giveAll_iff_forall₂.mpr hgives)
  · obtain ⟨v, hv, hroots⟩ := hgives
    rw [hroots]
    exact ⟨View.everywhere_of_gives hP hv, trivial⟩

/-- Every view of a layout that is read has proper values. -/
theorem Layout.proper_of_read {strict : Bool} {source : String} {layout : Layout}
    (h : (Layout.read strict source).result = .ok layout) :
    View.EverywhereAll View.Proper layout.roots := by
  refine Layout.everywhere_of_read (fun attrs kind v vs hview => ?_) h
  have hproper := Document.Attributes.of_view hview
  cases v with
  | control f c => exact hproper
  | group f g us => exact hproper

end LayoutCompose
