import LayoutCompose.Document.Reading
import LayoutCompose.Proofs.Outcome
import Mathlib.Data.List.Forall2

/-!
Documents as trees of elements.

A document is read event by event, with a stack of the elements that are open. Here the same
document is taken as a tree of elements, whose views are made one inside the other, and the two
readings are shown to agree: a layout is read exactly from the events of one element with a
proper place, tag and attributes for every element in it, and it is the layout that the tree
gives.
-/

namespace LayoutCompose

namespace Markup

/-- Events that may stand anywhere and say nothing: white space of ASCII, comments and their
like. -/
def Event.isSilent : Event → Bool
  | text content => content.all Text.isAsciiBlank
  | aside => true
  | _ => false

def telling (es : List (Located Event)) : List Event :=
  (es.map Located.value).filter fun e => !e.isSilent

end Markup

namespace Document

open Markup (Event Located Tag telling)

/-- An element with its child elements, in document order. -/
inductive Element
  | node (tag : Tag) (children : List Element)

namespace Element

def name : Element → String
  | node tag _ => String.ofList tag.name

def children : Element → List Element
  | node _ es => es

/-- The events of elements one after the other, and nothing else. An element without children
may be written with one tag or with two. -/
inductive Spelled : List Element → List Event → Prop
  | nil : Spelled [] []
  | empty (tag : Tag) {rest : List Element} {after : List Event} :
      Spelled rest after → Spelled (node tag [] :: rest) (.empty tag :: after)
  | full (tag : Tag) {children rest : List Element} {inner after : List Event} :
      Spelled children inner → Spelled rest after →
        Spelled (node tag children :: rest) (.start tag :: (inner ++ .close :: after))

/-- The view that a tag makes by itself: the tag stands for a kind, its attributes are accepted,
and a view of that kind can be made of them. -/
def Bare (strict : Bool) (tag : Tag) (kind : Kind) (v : View) : Prop :=
  Kind.ofTag? (String.ofList tag.name) = some kind ∧
    ∃ attrs, (attributesOf strict kind (String.ofList tag.name) tag).result = .ok attrs ∧
      attrs.view kind = .ok v

mutual

/-- The view that an element gives: what its tag makes, with the views of its children inside.
Only an element of a group kind has children. -/
def Gives (strict : Bool) : Element → View → Prop
  | node tag children, v =>
      ∃ kind bare vs, Bare strict tag kind bare ∧ (children ≠ [] → kind.isGroup = true) ∧
        GiveAll strict children vs ∧ v = bare.withChildren vs

/-- Elements give views one for one and in order. -/
def GiveAll (strict : Bool) : List Element → List View → Prop
  | [], [] => True
  | e :: es, v :: vs => Gives strict e v ∧ GiveAll strict es vs
  | _, _ => False

end

theorem giveAll_nil {strict : Bool} {vs : List View} (h : GiveAll strict [] vs) : vs = [] := by
  cases vs with
  | nil => rfl
  | cons v vs => exact h.elim

theorem GiveAll.ne_nil {strict : Bool} {es : List Element} {vs : List View}
    (h : GiveAll strict es vs) (hvs : vs ≠ []) : es ≠ [] := by
  rintro rfl
  exact hvs (giveAll_nil h)

theorem giveAll_iff_forall₂ {strict : Bool} {es : List Element} {vs : List View} :
    GiveAll strict es vs ↔ List.Forall₂ (Gives strict) es vs := by
  induction es generalizing vs with
  | nil => cases vs <;> simp [GiveAll]
  | cons e es ih => cases vs <;> simp [GiveAll, ih]

end Element

end Document

open Document (Attributes Element)

/-! ### The view of a tag -/

@[simp] theorem View.isGroup_kind_control (f : Frame) (c : Control) :
    (View.control f c).kind.isGroup = false := by
  cases c with
  | toggle form => cases form <;> rfl
  | _ => rfl

@[simp] theorem View.isGroup_kind_group (f : Frame) (g : Group) (vs : List View) :
    (View.group f g vs).kind.isGroup = true := by
  cases g <;> rfl

/-- A view made of attributes is of the kind asked for and has no children yet. -/
theorem Document.Attributes.kind_of_view {attrs : Attributes} {kind : Kind} {v : View}
    (h : attrs.view kind = .ok v) : v.kind = kind ∧ v.children = [] := by
  cases kind <;> simp only [view, toggle, Outcome.bind_eq_ok, Outcome.pure_eq_ok] at h
  all_goals
    grind [View.kind, View.children, Control.kind, Group.kind, ToggleForm.kind]

theorem View.withChildren_nil {v : View} (h : v.children = []) : v.withChildren [] = v := by
  cases v with
  | control f c => rfl
  | group f g vs =>
      rw [View.children] at h
      rw [View.withChildren, h]

/-- There is no kind for the tag that only groups roots. -/
@[simp] theorem Kind.ofTag?_merge : Kind.ofTag? "merge" = none := by
  decide

namespace Document

open Markup (Event Located Tag telling)

open Element

theorem Element.Bare.name_ne_merge {strict : Bool} {tag : Tag} {kind : Kind} {v : View}
    (h : Bare strict tag kind v) : String.ofList tag.name ≠ "merge" := by
  intro hname
  rw [Bare, hname, Kind.ofTag?_merge] at h
  exact nomatch h.1

theorem Element.Bare.kind_eq {strict : Bool} {tag : Tag} {kind : Kind} {v : View}
    (h : Bare strict tag kind v) : v.kind = kind ∧ v.children = [] := by
  obtain ⟨-, attrs, -, hview⟩ := h
  exact Attributes.kind_of_view hview

theorem Session.build_eq_ok_iff {strict : Bool} {tag : Tag} {v : View} :
    (Session.build strict (String.ofList tag.name) tag).result = .ok v ↔
      ∃ kind, Bare strict tag kind v := by
  unfold Session.build Bare
  cases hkind : Kind.ofTag? (String.ofList tag.name) with
  | none => simp
  | some kind => simp

/-- Whether child elements may stand in an open element. -/
def Open.takesChildren : Open → Bool
  | merge => true
  | view _ v => v.kind.isGroup

namespace Session

/-! ### One event -/

/-- A session in which `t` is what `s` becomes by the given events. -/
def Reads (strict : Bool) : Session → List Event → Session → Prop
  | s, [], t => t = s
  | s, e :: es, t => ∃ u, (s.step strict e).result = .ok u ∧ Reads strict u es t

/-- There is an open element, and the innermost one may have children. -/
def IsOpen (s : Session) : Prop :=
  s.stack.head?.any Open.takesChildren = true

def push (s : Session) (tag : String) (v : View) : Session :=
  { s with begun := true, stack := .view tag v :: s.stack }

def attachAll (s : Session) (vs : List View) : Session :=
  vs.foldl attach s

theorem run_eq_ok_iff {strict : Bool} {s t : Session} {es : List (Located Event)} :
    (run strict s es).result = .ok t ↔ Reads strict s (es.map Located.value) t := by
  induction es generalizing s with
  | nil => simp [run, Reads, eq_comm]
  | cons e es ih => simp [run, Reads, ih]

theorem reads_append {strict : Bool} {s t : Session} {es fs : List Event} :
    Reads strict s (es ++ fs) t ↔ ∃ u, Reads strict s es u ∧ Reads strict u fs t := by
  induction es generalizing s with
  | nil => simp [Reads]
  | cons e es ih =>
      simp only [List.cons_append, Reads, ih]
      constructor
      · rintro ⟨u, hu, w, hw, ht⟩
        exact ⟨w, ⟨u, hu, hw⟩, ht⟩
      · rintro ⟨w, ⟨u, hu, hw⟩, ht⟩
        exact ⟨u, hu, w, hw, ht⟩

theorem step_silent {strict : Bool} {s : Session} {e : Event} (h : e.isSilent = true) :
    (s.step strict e).result = .ok s := by
  cases e <;> simp_all [Event.isSilent, step]

/-- An event that says something and is accepted begins or ends an element. -/
theorem step_cases {strict : Bool} {s t : Session} {e : Event} (he : e.isSilent = false)
    (h : (s.step strict e).result = .ok t) :
    (∃ tag, e = .start tag ∧ (s.enter strict tag false).result = .ok t) ∨
      (∃ tag, e = .empty tag ∧ (s.enter strict tag true).result = .ok t) ∨
        (e = .close ∧ s.leave = .ok t) := by
  cases e with
  | start tag => exact .inl ⟨tag, rfl, h⟩
  | empty tag => exact .inr (.inl ⟨tag, rfl, h⟩)
  | close => exact .inr (.inr ⟨rfl, h⟩)
  | text content =>
      rw [Event.isSilent] at he
      simp [step, he] at h
  | cdata => simp [step] at h
  | aside => exact absurd he.symm Bool.false_ne_true

/-- Silent events are passed over. -/
@[simp] theorem reads_filter {strict : Bool} {s t : Session} {es : List Event} :
    Reads strict s (es.filter fun e => !e.isSilent) t ↔ Reads strict s es t := by
  induction es generalizing s with
  | nil => rfl
  | cons e es ih =>
      by_cases he : e.isSilent = true
      · rw [List.filter_cons_of_neg (by simp [he])]
        simp [Reads, step_silent he, ih]
      · rw [List.filter_cons_of_pos (by simp [he])]
        simp [Reads, ih]

theorem checkPlace_eq_ok_iff {s : Session} (hs : s.begun = true) (name : String) :
    s.checkPlace name = .ok () ↔ s.IsOpen := by
  unfold checkPlace IsOpen
  split
  · rename_i hstack
    simp [hs, hstack]
  · rename_i hstack
    simp [hstack, Open.takesChildren]
  · rename_i hne hcontrol
    cases hstack : s.stack with
    | nil => exact absurd hstack hne
    | cons o stack =>
        cases o with
        | merge => simp [Open.takesChildren]
        | view tag v =>
            cases v with
            | control f c => exact absurd hstack (hcontrol tag f c stack)
            | group f g vs => simp [Open.takesChildren]

/-- Once the document element has begun, an element has to stand in an open group. -/
theorem enter_eq_ok_iff {strict empty : Bool} {s t : Session} (hs : s.begun = true) {tag : Tag} :
    (s.enter strict tag empty).result = .ok t ↔
      s.IsOpen ∧ ∃ kind v, Bare strict tag kind v ∧
        t = if empty then s.attach v else s.push (String.ofList tag.name) v := by
  have hself : { s with begun := true } = s := by rw [← hs]
  by_cases hname : String.ofList tag.name = "merge"
  · have hnone : ∀ kind v, ¬Bare strict tag kind v := fun kind v h => h.name_ne_merge hname
    simp [enter, hname, hs, hnone]
  · simp only [enter, hname, ↓reduceIte, Noted.result_bind, Noted.result_of,
      Outcome.Except_bind_eq_ok, checkPlace_eq_ok_iff hs, build_eq_ok_iff, Noted.result_pure,
      Except.ok.injEq, hself]
    constructor
    · rintro ⟨-, hopen, v, ⟨kind, hbare⟩, rfl⟩
      exact ⟨hopen, kind, v, hbare, rfl⟩
    · rintro ⟨hopen, kind, v, hbare, rfl⟩
      exact ⟨(), hopen, v, ⟨kind, hbare⟩, rfl⟩

/-- The document element groups roots or is a root itself. -/
theorem enter_initial_eq_ok_iff {strict empty : Bool} {t : Session} {tag : Tag} :
    (enter strict {} tag empty).result = .ok t ↔
      (String.ofList tag.name = "merge" ∧ t = ⟨if empty then [] else [.merge], [], true⟩) ∨
        ∃ kind v, Bare strict tag kind v ∧
          t = if empty then ⟨[], [v], true⟩
            else ⟨[.view (String.ofList tag.name) v], [], true⟩ := by
  by_cases hname : String.ofList tag.name = "merge"
  · have hnone : ∀ kind v, ¬Bare strict tag kind v := fun kind v h => h.name_ne_merge hname
    simp [enter, hname, hnone, eq_comm]
  · simp only [enter, hname, ↓reduceIte, checkPlace, Noted.result_bind, Noted.result_of,
      Outcome.Except_bind_eq_ok, build_eq_ok_iff, Noted.result_pure, Except.ok.injEq, attach,
      Bool.false_eq_true, false_and, false_or, List.nil_append]
    constructor
    · rintro ⟨-, -, v, ⟨kind, hbare⟩, rfl⟩
      exact ⟨kind, v, hbare, rfl⟩
    · rintro ⟨kind, v, hbare, rfl⟩
      exact ⟨(), trivial, v, ⟨kind, hbare⟩, rfl⟩

/-! ### Finished views -/

@[simp] theorem begun_attach (s : Session) (v : View) : (s.attach v).begun = s.begun := by
  unfold attach
  split <;> rfl

theorem stack_attach_ne_nil {s : Session} (hs : s.stack ≠ []) (v : View) :
    (s.attach v).stack ≠ [] := by
  unfold attach
  split <;> simp_all

theorem isOpen_attach {s : Session} (hs : s.IsOpen) (v : View) : (s.attach v).IsOpen := by
  unfold attach
  split
  · simp [IsOpen, Open.takesChildren]
  · exact hs

theorem IsOpen.stack_ne_nil {s : Session} (hs : s.IsOpen) : s.stack ≠ [] := by
  intro h
  simp [IsOpen, h] at hs

theorem attachAll_group (s : Session) (tag : String) (f : Frame) (g : Group)
    (us vs : List View) (stack : List Open) :
    attachAll { s with stack := .view tag (.group f g us) :: stack } vs =
      { s with stack := .view tag (.group f g (us ++ vs)) :: stack } := by
  induction vs generalizing us with
  | nil => simp [attachAll]
  | cons v vs ih =>
      rw [attachAll, List.foldl_cons, ← attachAll, attach]
      simpa using ih (us ++ [v])

theorem attachAll_merge (s : Session) (vs : List View) (stack : List Open) :
    attachAll { s with stack := .merge :: stack } vs =
      { s with stack := .merge :: stack, roots := s.roots ++ vs } := by
  induction vs generalizing s with
  | nil => simp [attachAll]
  | cons v vs ih =>
      rw [attachAll, List.foldl_cons, ← attachAll, attach]
      simpa using ih { s with roots := s.roots ++ [v] }

/-- An element that ends is given to what was open around it, with the views of its children
inside. -/
theorem leave_push {strict : Bool} {s : Session} {tag : Tag} {kind : Kind} {bare : View}
    {vs : List View} (hs : s.begun = true) (hbare : Bare strict tag kind bare)
    (hgroup : vs ≠ [] → kind.isGroup = true) :
    ((s.push (String.ofList tag.name) bare).attachAll vs).leave =
      .ok (s.attach (bare.withChildren vs)) := by
  have hself : { s with begun := true } = s := by rw [← hs]
  obtain ⟨hkind, hchildren⟩ := hbare.kind_eq
  cases bare with
  | control f c =>
      rw [← hkind, View.isGroup_kind_control] at hgroup
      have hvs : vs = [] := by
        by_contra hne
        exact Bool.false_ne_true (hgroup hne)
      subst hvs
      simp [push, attachAll, leave, View.withChildren, hself]
  | group f g us =>
      rw [View.children] at hchildren
      subst hchildren
      have hall := attachAll_group { s with begun := true } (String.ofList tag.name) f g [] vs
        s.stack
      simp only [push, hall, leave, View.withChildren, List.nil_append, hself]

/-! ### The events of elements -/

theorem isOpen_push {strict : Bool} {tag : Tag} {kind : Kind} {bare : View} (s : Session)
    (hbare : Bare strict tag kind bare) (hgroup : kind.isGroup = true) :
    (s.push (String.ofList tag.name) bare).IsOpen := by
  rw [← hbare.kind_eq.1] at hgroup
  simpa [IsOpen, push, Open.takesChildren] using hgroup

/-- Where the events of elements stand in an open element, their views are attached to it in
order. -/
theorem reads_of_spelled {strict : Bool} {es : List Element} {events : List Event}
    (hspelled : Spelled es events) {s : Session} {vs : List View} (hs : s.begun = true)
    (hopen : es ≠ [] → s.IsOpen) (hgives : GiveAll strict es vs) :
    Reads strict s events (s.attachAll vs) := by
  -- A view that is attached leaves open what was open, so the next sibling finds it as well.
  induction hspelled generalizing s vs with
  | nil =>
      cases vs with
      | nil => rfl
      | cons v vs => exact hgives.elim
  | empty tag _ ih =>
      cases vs with
      | nil => exact hgives.elim
      | cons v vs =>
          obtain ⟨⟨kind, bare, us, hbare, -, hus, rfl⟩, hrest⟩ := hgives
          obtain rfl := giveAll_nil hus
          have hchildren := hbare.kind_eq.2
          rw [View.withChildren_nil hchildren]
          have hin := hopen (List.cons_ne_nil _ _)
          refine ⟨s.attach bare, ?_, ?_⟩
          · exact (enter_eq_ok_iff hs).mpr ⟨hin, kind, bare, hbare, rfl⟩
          · exact ih (by simpa using hs) (fun _ => isOpen_attach hin bare) hrest
  | @full tag children rest inner after hinner _ ihInner ihAfter =>
      cases vs with
      | nil => exact hgives.elim
      | cons v vs =>
          obtain ⟨⟨kind, bare, us, hbare, hgroup, hus, rfl⟩, hrest⟩ := hgives
          have hin := hopen (List.cons_ne_nil _ _)
          refine ⟨s.push (String.ofList tag.name) bare, ?_,
            reads_append.mpr ⟨(s.push (String.ofList tag.name) bare).attachAll us, ?_, ?_⟩⟩
          · exact (enter_eq_ok_iff hs).mpr ⟨hin, kind, bare, hbare, rfl⟩
          · exact ihInner rfl (fun hne => isOpen_push s hbare (hgroup hne)) hus
          · have hleave := leave_push hs hbare fun hne => hgroup (GiveAll.ne_nil hus hne)
            refine ⟨_, hleave, ?_⟩
            exact ihAfter (by simpa using hs) (fun _ => isOpen_attach hin _) hrest

/-- Where reading goes from inside an element to the end of all elements, the events begin with
those of elements, whose views are attached, and with the end of the element. -/
theorem spelled_of_reads {strict : Bool} {events : List Event} {s t : Session}
    (hs : s.begun = true) (hstack : s.stack ≠ []) (ht : t.stack = [])
    (htelling : ∀ e ∈ events, e.isSilent = false) (hreads : Reads strict s events t) :
    ∃ es inner vs after, events = inner ++ .close :: after ∧ Spelled es inner ∧
      GiveAll strict es vs ∧ (es ≠ [] → s.IsOpen) ∧
        Reads strict (s.attachAll vs) (.close :: after) t := by
  -- The events of an element are followed by those of its siblings, both fewer than all.
  induction hn : events.length using Nat.strongRecOn generalizing events s with
  | _ n ih =>
  cases events with
  | nil =>
      rw [Reads] at hreads
      subst hreads
      exact absurd ht hstack
  | cons e events =>
      have hrest : ∀ e ∈ events, e.isSilent = false := fun e he =>
        htelling e (List.mem_cons_of_mem _ he)
      have hfewer : events.length < n := by
        rw [← hn]
        exact Nat.lt_succ_self _
      obtain ⟨u, hu, hreads⟩ := hreads
      rcases step_cases (htelling e (List.mem_cons_self ..)) hu with
        ⟨tag, rfl, henter⟩ | ⟨tag, rfl, henter⟩ | ⟨rfl, -⟩
      · obtain ⟨hopen, kind, bare, hbare, rfl⟩ := (enter_eq_ok_iff hs).mp henter
        obtain ⟨children, inner, us, after, rfl, hinner, hus, hgroup, u, hleave, hreads⟩ :=
          ih events.length hfewer rfl (List.cons_ne_nil _ _) hrest hreads rfl
        have hkind : children ≠ [] → kind.isGroup = true := by
          intro hne
          have hpush := hgroup hne
          rw [← hbare.kind_eq.1]
          simpa [IsOpen, push, Open.takesChildren] using hpush
        have hpop := leave_push hs hbare fun hne => hkind (hus.ne_nil hne)
        obtain rfl : s.attach (bare.withChildren us) = u := by
          simpa [step, hpop] using hleave
        have hafter : after.length < n := by
          simp only [List.length_cons, List.length_append] at hfewer
          omega
        obtain ⟨es, inner', vs, after', rfl, hspelled, hgives, -, hclose⟩ :=
          ih after.length hafter (by simpa using hs) (stack_attach_ne_nil hstack _)
            (fun e he => hrest e (by simp [he])) hreads rfl
        exact ⟨.node tag children :: es, .start tag :: (inner ++ .close :: inner'),
          bare.withChildren us :: vs, after', by simp, .full tag hinner hspelled,
          ⟨⟨kind, bare, us, hbare, hkind, hus, rfl⟩, hgives⟩, fun _ => hopen, hclose⟩
      · obtain ⟨hopen, kind, bare, hbare, rfl⟩ := (enter_eq_ok_iff hs).mp henter
        obtain ⟨es, inner, vs, after, rfl, hspelled, hgives, -, hclose⟩ :=
          ih events.length hfewer (by simpa using hs) (stack_attach_ne_nil hstack _)
            hrest hreads rfl
        refine ⟨.node tag [] :: es, .empty tag :: inner, bare :: vs, after, rfl,
          .empty tag hspelled, ⟨⟨kind, bare, [], hbare, fun h => absurd rfl h, trivial, ?_⟩,
            hgives⟩, fun _ => hopen, hclose⟩
        rw [View.withChildren_nil hbare.kind_eq.2]
      · exact ⟨[], [], [], events, rfl, .nil, trivial, fun h => absurd rfl h, u, hu, hreads⟩

/-- After the end of the document element, no event says anything. -/
theorem eq_nil_of_reads {strict : Bool} {events : List Event} {s t : Session}
    (hs : s.begun = true) (hstack : s.stack = [])
    (htelling : ∀ e ∈ events, e.isSilent = false) (hreads : Reads strict s events t) :
    events = [] ∧ t = s := by
  cases events with
  | nil => exact ⟨rfl, hreads⟩
  | cons e events =>
      obtain ⟨u, hu, -⟩ := hreads
      have hclosed : ¬s.IsOpen := fun h => h.stack_ne_nil hstack
      rcases step_cases (htelling e (List.mem_cons_self ..)) hu with
        ⟨tag, rfl, henter⟩ | ⟨tag, rfl, henter⟩ | ⟨rfl, hleave⟩
      · exact absurd ((enter_eq_ok_iff hs).mp henter).1 hclosed
      · exact absurd ((enter_eq_ok_iff hs).mp henter).1 hclosed
      · rw [leave, hstack] at hleave
        exact nomatch hleave

end Session

/-- The roots of a document whose only element is `root`: the views of its children where it
merges them, and otherwise its own view. -/
def Element.GivesRoots (strict : Bool) (root : Element) (roots : List View) : Prop :=
  if root.name = "merge" then List.Forall₂ (Gives strict) root.children roots
  else ∃ v, root.Gives strict v ∧ roots = [v]

namespace Session

/-- A document element is read from the first event to the last. -/
theorem reads_initial_of_spelled {strict : Bool} {root : Element} {events : List Event}
    {roots : List View} (hspelled : Spelled [root] events) (hgives : root.GivesRoots strict roots) :
    Reads strict {} events ⟨[], roots, true⟩ := by
  cases hspelled with
  | @empty tag _ after hafter =>
      cases hafter
      by_cases hname : String.ofList tag.name = "merge"
      · rw [GivesRoots, Element.name, if_pos hname, Element.children, List.forall₂_nil_left_iff]
          at hgives
        subst hgives
        exact ⟨_, enter_initial_eq_ok_iff.mpr (.inl ⟨hname, rfl⟩), rfl⟩
      · rw [GivesRoots, Element.name, if_neg hname] at hgives
        obtain ⟨v, ⟨kind, bare, us, hbare, -, hus, rfl⟩, rfl⟩ := hgives
        obtain rfl := giveAll_nil hus
        rw [View.withChildren_nil hbare.kind_eq.2]
        exact ⟨_, enter_initial_eq_ok_iff.mpr (.inr ⟨kind, bare, hbare, rfl⟩), rfl⟩
  | @full tag children _ inner after hinner hafter =>
      cases hafter
      by_cases hname : String.ofList tag.name = "merge"
      · rw [GivesRoots, Element.name, if_pos hname, Element.children, ← giveAll_iff_forall₂]
          at hgives
        refine ⟨_, enter_initial_eq_ok_iff.mpr (.inl ⟨hname, rfl⟩), reads_append.mpr ⟨_,
          reads_of_spelled hinner rfl (fun _ => rfl) hgives, ?_⟩⟩
        rw [if_neg Bool.false_ne_true, attachAll_merge {begun := true}]
        exact ⟨_, rfl, rfl⟩
      · rw [GivesRoots, Element.name, if_neg hname] at hgives
        obtain ⟨v, ⟨kind, bare, us, hbare, hgroup, hus, rfl⟩, rfl⟩ := hgives
        refine ⟨_, enter_initial_eq_ok_iff.mpr (.inr ⟨kind, bare, hbare, rfl⟩),
          reads_append.mpr ⟨_, reads_of_spelled hinner rfl
            (fun hne => isOpen_push { begun := true } hbare (hgroup hne)) hus, ?_⟩⟩
        exact ⟨_, leave_push (s := { begun := true }) rfl hbare
          (fun hne => hgroup (GiveAll.ne_nil hus hne)), rfl⟩

/-- What is read to the end is a document element. -/
theorem spelled_of_reads_initial {strict : Bool} {events : List Event} {t : Session}
    (htelling : ∀ e ∈ events, e.isSilent = false) (hreads : Reads strict {} events t)
    (hstack : t.stack = []) (hbegun : t.begun = true) :
    ∃ root, Spelled [root] events ∧ root.GivesRoots strict t.roots := by
  cases events with
  | nil =>
      rw [Reads] at hreads
      subst hreads
      exact absurd hbegun Bool.false_ne_true
  | cons e events =>
      obtain ⟨u, hu, hreads⟩ := hreads
      have hrest : ∀ e ∈ events, e.isSilent = false := fun e he =>
        htelling e (List.mem_cons_of_mem _ he)
      rcases step_cases (htelling e (List.mem_cons_self ..)) hu with
        ⟨tag, rfl, henter⟩ | ⟨tag, rfl, henter⟩ | ⟨rfl, hleave⟩
      · rcases enter_initial_eq_ok_iff.mp henter with ⟨hname, rfl⟩ | ⟨kind, bare, hbare, rfl⟩
        · obtain ⟨es, inner, vs, after, rfl, hspelled, hgives, -, u, hleave, hreads⟩ :=
            spelled_of_reads rfl (List.cons_ne_nil _ _) hstack hrest hreads
          rw [if_neg Bool.false_ne_true, attachAll_merge { begun := true }] at hleave
          obtain rfl : ⟨[], [] ++ vs, true⟩ = u := Except.ok.inj hleave
          obtain ⟨rfl, rfl⟩ := eq_nil_of_reads rfl rfl (fun e he => hrest e (by simp [he])) hreads
          refine ⟨.node tag es, .full tag hspelled .nil, ?_⟩
          rw [GivesRoots, Element.name, if_pos hname, Element.children, ← giveAll_iff_forall₂]
          exact hgives
        · obtain ⟨es, inner, vs, after, rfl, hspelled, hgives, hopen, u, hleave, hreads⟩ :=
            spelled_of_reads rfl (List.cons_ne_nil _ _) hstack hrest hreads
          have hkind : es ≠ [] → kind.isGroup = true := by
            intro hne
            rw [← hbare.kind_eq.1]
            simpa [IsOpen, Open.takesChildren] using hopen hne
          have hpop := leave_push (s := { begun := true }) rfl hbare
            fun hne => hkind (hgives.ne_nil hne)
          obtain rfl : ⟨[], [bare.withChildren vs], true⟩ = u :=
            Except.ok.inj (hpop.symm.trans hleave)
          obtain ⟨rfl, rfl⟩ := eq_nil_of_reads rfl rfl (fun e he => hrest e (by simp [he])) hreads
          refine ⟨.node tag es, .full tag hspelled .nil, ?_⟩
          rw [GivesRoots, Element.name, if_neg hbare.name_ne_merge]
          exact ⟨_, ⟨kind, bare, vs, hbare, hkind, hgives, rfl⟩, rfl⟩
      · rcases enter_initial_eq_ok_iff.mp henter with ⟨hname, rfl⟩ | ⟨kind, bare, hbare, rfl⟩
        · obtain ⟨rfl, rfl⟩ := eq_nil_of_reads rfl rfl hrest hreads
          refine ⟨.node tag [], .empty tag .nil, ?_⟩
          rw [GivesRoots, Element.name, if_pos hname]
          exact .nil
        · obtain ⟨rfl, rfl⟩ := eq_nil_of_reads rfl rfl hrest hreads
          refine ⟨.node tag [], .empty tag .nil, ?_⟩
          rw [GivesRoots, Element.name, if_neg hbare.name_ne_merge]
          refine ⟨bare, ⟨kind, bare, [], hbare, fun h => absurd rfl h, trivial, ?_⟩, rfl⟩
          rw [View.withChildren_nil hbare.kind_eq.2]
      · exact nomatch hleave

theorem finish_eq_ok_iff {s : Session} {length : Nat} {layout : Layout} :
    s.finish length = .ok layout ↔ s = ⟨[], layout.roots, true⟩ := by
  obtain ⟨stack, roots, begun⟩ := s
  obtain ⟨views⟩ := layout
  cases stack with
  | nil => cases begun <;> simp [finish]
  | cons o stack => simp [finish]

end Session

theorem telling_isSilent (items : List (Located Event)) :
    ∀ e ∈ telling items, e.isSilent = false := by
  intro e he
  simpa using (List.mem_filter.mp he).2

theorem ofEvents_eq_ok_iff_reads {strict : Bool} {length : Nat}
    {run : Run (Located Markup.Fault) (Located Event)} {layout : Layout} :
    (ofEvents strict length run).result = .ok layout ↔
      run.stop = none ∧ Session.Reads strict {} (telling run.items) ⟨[], layout.roots, true⟩ := by
  rw [telling, Session.reads_filter, ← Session.run_eq_ok_iff, ofEvents]
  cases hstop : run.stop with
  | some fault => simp
  | none => simp [Session.finish_eq_ok_iff]

/-- A document is read exactly if no fault of its markup is in the way and its events, silent
ones aside, are those of one element that gives roots. -/
theorem ofEvents_eq_ok_iff_spelled {strict : Bool} {length : Nat}
    {run : Run (Located Markup.Fault) (Located Event)} {layout : Layout} :
    (ofEvents strict length run).result = .ok layout ↔
      run.stop = none ∧ ∃ root, Spelled [root] (telling run.items) ∧
        root.GivesRoots strict layout.roots := by
  rw [ofEvents_eq_ok_iff_reads]
  refine and_congr_right fun _ => ⟨fun hreads => ?_, fun ⟨root, hspelled, hgives⟩ => ?_⟩
  · exact Session.spelled_of_reads_initial (telling_isSilent _) hreads rfl rfl
  · exact Session.reads_initial_of_spelled hspelled hgives

def markup (source : String) : Run (Located Markup.Fault) (Located Event) :=
  Markup.events (Text.dropHead [byteOrderMark] (Text.dropHead [byteOrderMark] source.toList))

theorem Element.GivesRoots.length_eq_one {strict : Bool} {root : Element} {roots : List View}
    (h : root.GivesRoots strict roots) (hname : root.name ≠ "merge") : roots.length = 1 := by
  rw [GivesRoots, if_neg hname] at h
  obtain ⟨v, -, rfl⟩ := h
  rfl

/-- The reading with a stack of open elements agrees with the reading of a tree of elements: a
layout comes out exactly if the events are those of one element, silent ones aside, whose tree
gives the roots of the layout. There is then one root, unless the element merges its children. -/
theorem ofEvents_eq_ok_iff_element_tree (strict : Bool) (length : Nat)
    (run : Run (Located Markup.Fault) (Located Event)) (layout : Layout) :
    (ofEvents strict length run).result = .ok layout ↔
      run.stop = none ∧ ∃ root, Spelled [root] (telling run.items) ∧
        root.GivesRoots strict layout.roots ∧
          (root.name ≠ "merge" → layout.roots.length = 1) := by
  rw [ofEvents_eq_ok_iff_spelled]
  constructor
  · rintro ⟨hstop, root, hspelled, hgives⟩
    exact ⟨hstop, root, hspelled, hgives, hgives.length_eq_one⟩
  · rintro ⟨hstop, root, hspelled, hgives, -⟩
    exact ⟨hstop, root, hspelled, hgives⟩

end Document

end LayoutCompose
