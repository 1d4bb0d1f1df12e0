import LayoutCompose.Proofs.AttributeOrder

/-!
Documents whose elements have other tags of the same kinds.

The tag of an element is looked up once, for its kind, and from then on it only serves to tell which
element is at fault; a group that scrolls horizontally is the one exception. So a document in which
elements get other tags of their kinds, in their opening and closing tags alike, is read with the
same layout.
-/

namespace LayoutCompose

/-! ### Tags of the same kind -/

namespace Kind

/-- Different tags of one kind, none of which scrolls horizontally. -/
def Synonyms (tag other : String) : Prop :=
  ∃ kind, ofTag? tag = some kind ∧ ofTag? other = some kind ∧
    tag ≠ "HorizontalScrollView" ∧ other ≠ "HorizontalScrollView"

theorem Synonyms.symm {tag other : String} (h : Synonyms tag other) : Synonyms other tag := by
  obtain ⟨kind, htag, hother, hne, hne'⟩ := h
  exact ⟨kind, hother, htag, hne', hne⟩

def isTagChar (c : Char) : Bool :=
  c.isAlpha || c == '.'

theorem all_isTagChar_tags (kind : Kind) :
    (kind.tags.all fun tag => !tag.toList.isEmpty && tag.toList.all isTagChar) = true := by
  cases kind <;> decide +kernel

/-- A tag of the vocabulary is a word of letters and dots. -/
theorem isTagChar_of_ofTag? {tag : List Char} {kind : Kind}
    (h : ofTag? (String.ofList tag) = some kind) :
    tag ≠ [] ∧ ∀ c ∈ tag, isTagChar c = true := by
  have hmem : String.ofList tag ∈ kind.tags := by
    simpa using List.find?_some h
  have hall := List.all_eq_true.mp (all_isTagChar_tags kind) _ hmem
  rw [String.toList_ofList, Bool.and_eq_true, List.all_eq_true] at hall
  exact ⟨by simpa using hall.1, hall.2⟩

end Kind

namespace Markup

theorem ne_of_isTagChar {c d : Char} (hc : Kind.isTagChar c = true)
    (hd : Kind.isTagChar d = false) : c ≠ d := by
  rintro rfl
  rw [hc] at hd
  cases hd

theorem isSpace_of_isTagChar {c : Char} (h : Kind.isTagChar c = true) : isSpace c = false := by
  rw [isSpace]
  simp [ne_of_isTagChar h (show Kind.isTagChar ' ' = false by decide),
    ne_of_isTagChar h (show Kind.isTagChar '\t' = false by decide),
    ne_of_isTagChar h (show Kind.isTagChar '\r' = false by decide),
    ne_of_isTagChar h (show Kind.isTagChar '\n' = false by decide)]

/-- Names of elements that stand for the same: one name, or two tags of one kind. -/
def SameName (name other : List Char) : Prop :=
  name = other ∨ Kind.Synonyms (String.ofList name) (String.ofList other)

/-- The name of an element in two spellings. -/
structure Spelling where
  name : List Char
  other : List Char
  same : SameName name other
  solid : ∀ c ∈ name, isSpace c = false

namespace Spelling

/-- Where the spellings differ, both are words of letters and dots. -/
theorem eq_or_isTagChar (s : Spelling) : s.name = s.other ∨
    (s.name ≠ [] ∧ ∀ c ∈ s.name, Kind.isTagChar c = true) ∧
      s.other ≠ [] ∧ ∀ c ∈ s.other, Kind.isTagChar c = true := by
  refine s.same.imp_right ?_
  rintro ⟨kind, hname, hother, -⟩
  exact ⟨Kind.isTagChar_of_ofTag? hname, Kind.isTagChar_of_ofTag? hother⟩

theorem other_solid (s : Spelling) : ∀ c ∈ s.other, isSpace c = false := by
  rcases s.eq_or_isTagChar with heq | ⟨-, -, hother⟩
  · rw [← heq]
    exact s.solid
  · exact fun c hc => isSpace_of_isTagChar (hother c hc)

def ofSynonyms (tag other : String) (h : Kind.Synonyms tag other) : Spelling where
  name := tag.toList
  other := other.toList
  same := .inr (by simpa using h)
  solid := by
    obtain ⟨kind, htag, -⟩ := h
    rw [← String.ofList_toList (s := tag)] at htag
    have hchars := (Kind.isTagChar_of_ofTag? htag).2
    exact fun c hc => isSpace_of_isTagChar (hchars c hc)

def symm (s : Spelling) : Spelling where
  name := s.other
  other := s.name
  same := s.same.imp Eq.symm Kind.Synonyms.symm
  solid := s.other_solid

end Spelling

/-- The same tokens, but that elements may be spelled in another way. The open elements go along,
innermost first, so that an element has its closing tag in the spelling of its opening tag. -/
inductive Respelled : List Spelling → List Token → List Token → Prop
  | nil (opened : List Spelling) : Respelled opened [] []
  | same {opened : List Spelling} {t : Token} {ts us : List Token} :
      (∀ content, t ≠ .opening content ∧ t ≠ .closing content) → Respelled opened ts us →
        Respelled opened (t :: ts) (t :: us)
  | start {opened : List Spelling} (s : Spelling) {rest : List Char} {ts us : List Token} :
      (∀ c ∈ rest.head?, isSpace c = true) → (s.name ++ rest).getLast? ≠ some '/' →
        Respelled (s :: opened) ts us →
          Respelled opened (.opening (s.name ++ rest) :: ts) (.opening (s.other ++ rest) :: us)
  | empty {opened : List Spelling} (s : Spelling) {rest : List Char} {ts us : List Token} :
      (∀ c ∈ rest.head?, isSpace c = true) → Respelled opened ts us →
        Respelled opened (.opening (s.name ++ (rest ++ ['/'])) :: ts)
          (.opening (s.other ++ (rest ++ ['/'])) :: us)
  | close {opened : List Spelling} (s : Spelling) {space : List Char} {ts us : List Token} :
      (∀ c ∈ space, isSpace c = true) → Respelled opened ts us →
        Respelled (s :: opened) (.closing (s.name ++ space) :: ts)
          (.closing (s.other ++ space) :: us)

theorem Spelling.getLast?_ne_slash (s : Spelling) {rest : List Char}
    (h : (s.name ++ rest).getLast? ≠ some '/') : (s.other ++ rest).getLast? ≠ some '/' := by
  rcases s.eq_or_isTagChar with heq | ⟨-, -, hother⟩
  · rw [← heq]
    exact h
  · cases rest with
    | nil =>
        rw [List.append_nil]
        intro hlast
        exact ne_of_isTagChar (hother '/' (List.mem_of_getLast? hlast))
          (show Kind.isTagChar '/' = false by decide) rfl
    | cons c rest =>
        rw [List.getLast?_append_of_ne_nil _ (List.cons_ne_nil _ _)] at h ⊢
        exact h

theorem Respelled.symm {opened : List Spelling} {ts us : List Token}
    (h : Respelled opened ts us) : Respelled (opened.map Spelling.symm) us ts := by
  induction h with
  | nil => exact .nil _
  | same hother _ ih => exact .same hother ih
  | start s hrest hlast _ ih => exact .start s.symm hrest (s.getLast?_ne_slash hlast) ih
  | empty s hrest _ ih => exact .empty s.symm hrest ih
  | close s hspace _ ih => exact .close s.symm hspace ih

/-! ### The text of a document -/

variable {name cs content rest : List Char}

theorem passedOver_of_isTagChar (h : ∀ c ∈ name, Kind.isTagChar c = true) : PassedOver name :=
  passedOver_of_plain fun c hc => ⟨ne_of_isTagChar (h c hc) (by decide),
    ne_of_isTagChar (h c hc) (by decide), ne_of_isTagChar (h c hc) (by decide)⟩

/-- A tag whose name is a word is read if what follows the name can be cut off. -/
theorem isMarked_iff_cutTag {make : List Char → Token} (head : List Char)
    (hmake : ∀ a b, make a = make b → a = b)
    (hsource : ∀ rest, (make (name ++ content)).source ++ rest =
      '<' :: (head ++ (name ++ (content ++ '>' :: rest))))
    (hnext : ∀ rest, nextMarkup (head ++ (name ++ (content ++ '>' :: rest))) =
      token make .unclosedTag (cutTag none (name ++ (content ++ '>' :: rest))))
    (h : ∀ c ∈ name, Kind.isTagChar c = true) :
    (make (name ++ content)).IsMarked ↔ cutTag none (content ++ ['>']) = some (content, []) := by
  constructor
  · intro hmarked
    obtain ⟨cs, hcs, hread⟩ := hmarked []
    rw [hsource, List.cons.injEq] at hcs
    rw [← hcs.2, hnext, token_eq_ok_iff] at hread
    obtain ⟨content', hcut, hcontent⟩ := hread
    rw [← hmake _ _ hcontent, (passedOver_of_isTagChar h).cutTag_eq_some_iff] at hcut
    exact hcut
  · intro hcut rest
    refine ⟨_, hsource rest, ?_⟩
    rw [hnext, token_eq_ok_iff]
    exact ⟨_, (passedOver_of_isTagChar h).cutTag_eq_some_iff.mpr
      (cutsAtBracket_cutTag.append hcut rest), rfl⟩

theorem isMarked_opening_iff (hne : name ≠ []) (h : ∀ c ∈ name, Kind.isTagChar c = true) :
    (Token.opening (name ++ content)).IsMarked ↔
      cutTag none (content ++ ['>']) = some (content, []) := by
  refine isMarked_iff_cutTag [] (fun a b heq => Token.opening.inj heq)
    (fun rest => ?_) (fun rest => nextMarkup_opening fun c hc => ?_) h
  · rw [source_opening_append, List.append_assoc]
    rfl
  · rw [List.nil_append, List.head?_append_of_ne_nil _ hne] at hc
    have htag := h c (List.mem_of_mem_head? hc)
    exact ⟨ne_of_isTagChar htag (by decide), ne_of_isTagChar htag (by decide),
      ne_of_isTagChar htag (by decide)⟩

theorem isMarked_closing_iff (h : ∀ c ∈ name, Kind.isTagChar c = true) :
    (Token.closing (name ++ content)).IsMarked ↔
      cutTag none (content ++ ['>']) = some (content, []) := by
  refine isMarked_iff_cutTag ['/'] (fun a b heq => Token.closing.inj heq)
    (fun rest => ?_) (fun rest => rfl) h
  rw [source_closing_append, List.append_assoc]
  rfl

namespace Spelling

variable (s : Spelling)

theorem isMarked_opening (h : (Token.opening (s.name ++ content)).IsMarked) :
    (Token.opening (s.other ++ content)).IsMarked := by
  rcases s.eq_or_isTagChar with heq | ⟨⟨hne, hname⟩, hne', hother⟩
  · rw [← heq]
    exact h
  · rw [isMarked_opening_iff hne' hother]
    exact (isMarked_opening_iff hne hname).mp h

theorem isMarked_closing (h : (Token.closing (s.name ++ content)).IsMarked) :
    (Token.closing (s.other ++ content)).IsMarked := by
  rcases s.eq_or_isTagChar with heq | ⟨⟨-, hname⟩, -, hother⟩
  · rw [← heq]
    exact h
  · rw [isMarked_closing_iff hother]
    exact (isMarked_closing_iff hname).mp h

end Spelling

/-- Respelled tokens can be read from a text of their own, which begins in the same way. -/
theorem Respelled.spells {opened : List Spelling} {ts us : List Token}
    (h : Respelled opened ts us) (hts : Spells ts cs) :
    ∃ ds, Spells us ds ∧ ds.head? = cs.head? := by
  induction h generalizing cs with
  | nil =>
      cases hts
      exact ⟨[], .nil, rfl⟩
  | same _ _ ih => exact hts.exists_cons_self fun _ => ih
  | start s _ _ _ ih =>
      exact hts.exists_cons (by simp) s.isMarked_opening fun _ => ih
  | empty s _ _ ih =>
      exact hts.exists_cons (by simp) s.isMarked_opening fun _ => ih
  | close s _ _ ih =>
      exact hts.exists_cons (by simp) s.isMarked_closing fun _ => ih

/-! ### The events of a document -/

/-- The same event but for the spelling of an element. -/
inductive Event.Respelled : Event → Event → Prop
  | start {name other : List Char} (rest : List Char) : SameName name other →
      Respelled (.start ⟨name, rest⟩) (.start ⟨other, rest⟩)
  | empty {name other : List Char} (rest : List Char) : SameName name other →
      Respelled (.empty ⟨name, rest⟩) (.empty ⟨other, rest⟩)
  | same (e : Event) : Respelled e e

theorem closingName_append {space : List Char} (hne : name ≠ [])
    (hname : ∀ c ∈ name, isSpace c = false) (hspace : ∀ c ∈ space, isSpace c = true) :
    closingName (name ++ space) = name := by
  obtain ⟨c, cs, hreverse⟩ := List.exists_cons_of_ne_nil (List.reverse_ne_nil_iff.mpr hne)
  have hc : c ∈ name := List.mem_reverse.mp (by simp [hreverse])
  have hsolid : isSpace c = false := hname c hc
  have hall : ¬(name ++ space).all isSpace = true := fun hall => by
    rw [List.all_eq_true.mp hall c (List.mem_append_left _ hc)] at hsolid
    cases hsolid
  rw [closingName, if_neg hall, List.reverse_append,
    List.dropWhile_append_of_pos fun c hc => hspace c (List.mem_reverse.mp hc), hreverse,
    List.dropWhile_cons_of_neg (by simp [hsolid]), ← hreverse, List.reverse_reverse]

/-- An element is closed in the one spelling where it is closed in the other. -/
theorem Spelling.closingName_iff (s : Spelling) {space : List Char}
    (hspace : ∀ c ∈ space, isSpace c = true) :
    s.name = closingName (s.name ++ space) ↔ s.other = closingName (s.other ++ space) := by
  rcases s.eq_or_isTagChar with heq | ⟨⟨hne, -⟩, hne', -⟩
  · rw [heq]
  · rw [closingName_append hne s.solid hspace, closingName_append hne' s.other_solid hspace]
    exact iff_of_true rfl rfl

theorem Respelled.events {opened : List Spelling} {ts us : List Token}
    (h : Respelled opened ts us) (start here start' here' : Nat) :
    RelatedRuns Event.Respelled (eventsFrom none start here (opened.map Spelling.name) ts)
      (eventsFrom none start' here' (opened.map Spelling.other) us) := by
  induction h generalizing start here start' here' with
  | nil => exact ⟨Iff.rfl, .nil⟩
  | same ht _ ih => exact .of_same .same ht ih ..
  | start s hrest hlast _ ih =>
      simp only [eventsFrom, if_neg hlast, if_neg (s.getLast?_ne_slash hlast),
        ofContent_append s.solid hrest, ofContent_append s.other_solid hrest]
      exact (ih ..).cons (.start _ s.same) ..
  | empty s hrest _ ih =>
      simp only [eventsFrom, ← List.append_assoc, List.getLast?_concat, if_true,
        List.dropLast_concat, ofContent_append s.solid hrest, ofContent_append s.other_solid hrest]
      exact (ih ..).cons (.empty _ s.same) ..
  | @close _ s space _ _ hspace _ ih =>
      simp only [eventsFrom, List.map_cons]
      by_cases hclosed : s.name = closingName (s.name ++ space)
      · rw [if_pos hclosed, if_pos ((s.closingName_iff hspace).mp hclosed)]
        exact (ih ..).cons (.same _) ..
      · rw [if_neg hclosed, if_neg (mt (s.closingName_iff hspace).mpr hclosed)]
        exact .fail ..

end Markup

namespace Document

open Markup (Event Located RawAttribute Respelled SameName Spells Tag Token)

open Element

variable {strict : Bool}

/-! ### The view of a tag -/

namespace Attributes

def under (attrs : Attributes) (tag : String) : Attributes :=
  { attrs with tag }

theorem under_sameValues {attrs : Attributes} {tag : String}
    (h : (attrs.tag == "HorizontalScrollView") = (tag == "HorizontalScrollView")) :
    attrs.SameValues (attrs.under tag) :=
  ⟨h, fun _ => rfl⟩

end Attributes

theorem Collects.under {kind : Kind} {attrs t : Attributes} {a : List Char × List Char}
    (h : Collects strict kind attrs a t) (tag : String) :
    Collects strict kind (attrs.under tag) a (t.under tag) := by
  cases h with
  | foreign hbare => exact .foreign hbare
  | strange hbare hnew hentry hstrict => exact .strange hbare hnew hentry hstrict
  | known hbare hnew hentry hvalue => exact .known hbare hnew hentry hvalue

theorem CollectsAll.under {kind : Kind} {attrs t : Attributes} {as : List (List Char × List Char)}
    (h : CollectsAll strict kind attrs as t) (tag : String) :
    CollectsAll strict kind (attrs.under tag) as (t.under tag) := by
  induction as generalizing attrs with
  | nil => exact congrArg (Attributes.under · tag) h
  | cons a as ih =>
      obtain ⟨u, hfirst, hrest⟩ := h
      exact ⟨_, hfirst.under tag, ih hrest⟩

theorem CollectsAll.tag_eq {kind : Kind} {attrs t : Attributes} {as : List (List Char × List Char)}
    (h : CollectsAll strict kind attrs as t) : t.tag = attrs.tag := by
  induction as generalizing attrs with
  | nil => exact congrArg Attributes.tag h
  | cons a as ih =>
      obtain ⟨u, hfirst, hrest⟩ := h
      rw [ih hrest, hfirst.tag_eq]

/-- Tags with the same attributes in them. -/
theorem attributes_of_rest {name rest : List Char} (other : List Char)
    (h : (Tag.attributes ⟨name, rest⟩).stop = none) :
    (Tag.attributes ⟨other, rest⟩).stop = none ∧
      (Tag.attributes ⟨other, rest⟩).items.map RawAttribute.written =
        (Tag.attributes ⟨name, rest⟩).items.map RawAttribute.written := by
  have hspelled := Tag.spelled_attributes h
  obtain ⟨hdistinct, -⟩ := Tag.attributes_of_spelled hspelled
  obtain ⟨hdistinct', hitems⟩ := Tag.attributes_of_spelled
    (show Markup.AttributesSpelled _ (Tag.mk other rest).rest from hspelled)
  have hstop := hdistinct'.mpr (hdistinct.mp h)
  exact ⟨hstop, hitems hstop⟩

/-- An element makes the same view under another tag of its kind. -/
theorem Element.Bare.of_sameName {name other rest : List Char} {kind : Kind} {v : View}
    (hsame : SameName name other) (h : Bare strict ⟨name, rest⟩ kind v) :
    Bare strict ⟨other, rest⟩ kind v := by
  rcases hsame with rfl | ⟨kind', hname, hother, hne, hne'⟩
  · exact h
  obtain ⟨hkind, attrs, hattrs, hview⟩ := h
  obtain rfl : kind' = kind := Option.some.inj (hname.symm.trans hkind)
  obtain ⟨hstop, hall⟩ := attributesOf_eq_ok_iff.mp hattrs
  obtain ⟨hstop', hitems⟩ := attributes_of_rest other hstop
  -- The view depends on the tag only where that is the one for scrolling to the side.
  have htag : attrs.tag = String.ofList name := hall.tag_eq
  refine ⟨hother, attrs.under (String.ofList other), attributesOf_eq_ok_iff.mpr ⟨hstop', ?_⟩,
    (Attributes.under_sameValues ?_).view hview⟩
  · rw [hitems]
    exact hall.under (String.ofList other)
  · rw [htag, beq_false_of_ne hne, beq_false_of_ne hne']

theorem build_of_sameName {name other rest : List Char} {v : View} (hsame : SameName name other)
    (h : (Session.build strict (String.ofList name) ⟨name, rest⟩).result = .ok v) :
    (Session.build strict (String.ofList other) ⟨other, rest⟩).result = .ok v := by
  have hname : (Session.build strict (String.ofList (Tag.mk name rest).name)
      ⟨name, rest⟩).result = .ok v := h
  obtain ⟨kind, hbare⟩ := Session.build_eq_ok_iff.mp hname
  have hother := Session.build_eq_ok_iff.mpr ⟨kind, hbare.of_sameName hsame⟩
  exact hother

/-- The tag that merges roots has no other spelling. -/
theorem eq_of_sameName_merge {name other : List Char} (hsame : SameName name other)
    (h : String.ofList name = "merge" ∨ String.ofList other = "merge") : name = other := by
  rcases hsame with heq | ⟨kind, hname, hother, -⟩
  · exact heq
  · rcases h with h | h
    · rw [h, Kind.ofTag?_merge] at hname
      cases hname
    · rw [h, Kind.ofTag?_merge] at hother
      cases hother

/-! ### Reading respelled events -/

/-- The same view is open, under any tag. -/
inductive Open.SameView : Open → Open → Prop
  | merge : SameView .merge .merge
  | view (tag other : String) (v : View) : SameView (.view tag v) (.view other v)

namespace Session

/-- Sessions that differ in the tags of open elements at most. -/
structure SameViews (s t : Session) : Prop where
  stack : List.Forall₂ Open.SameView s.stack t.stack
  roots : s.roots = t.roots
  begun : s.begun = t.begun

namespace SameViews

variable {s t : Session}

theorem attach (h : s.SameViews t) (v : View) : (s.attach v).SameViews (t.attach v) := by
  obtain ⟨stack, roots, begun⟩ := s
  obtain ⟨stack', roots', begun'⟩ := t
  obtain ⟨hstack, rfl, rfl⟩ := h
  cases hstack with
  | nil => exact ⟨.nil, rfl, rfl⟩
  | cons hopen hrest =>
      cases hopen with
      | merge => exact ⟨.cons .merge hrest, rfl, rfl⟩
      | view tag other w =>
          cases w with
          | control f c => exact ⟨.cons (.view ..) hrest, rfl, rfl⟩
          | group f g vs => exact ⟨.cons (.view ..) hrest, rfl, rfl⟩

theorem checkPlace (h : s.SameViews t) {tag : String} (other : String)
    (hplace : s.checkPlace tag = .ok ()) : t.checkPlace other = .ok () := by
  obtain ⟨stack, roots, begun⟩ := s
  obtain ⟨stack', roots', begun'⟩ := t
  obtain ⟨hstack, rfl, rfl⟩ := h
  cases hstack with
  | nil => exact hplace
  | cons hopen hrest =>
      cases hopen with
      | merge => rfl
      | view tag' other' w =>
          cases w with
          | control f c => cases hplace
          | group f g vs => rfl

theorem leave (h : s.SameViews t) {u : Session} (hleave : s.leave = .ok u) :
    ∃ w, t.leave = .ok w ∧ u.SameViews w := by
  obtain ⟨stack, roots, begun⟩ := s
  obtain ⟨stack', roots', begun'⟩ := t
  obtain ⟨hstack, rfl, rfl⟩ := h
  cases hstack with
  | nil => cases hleave
  | cons hopen hrest =>
      cases hopen with
      | merge =>
          cases hleave
          exact ⟨_, rfl, hrest, rfl, rfl⟩
      | view tag other v =>
          cases hleave
          refine ⟨_, rfl, attach ?_ v⟩
          exact ⟨hrest, rfl, rfl⟩

end SameViews

theorem enter_of_sameName {s t u : Session} (h : s.SameViews t) {name other rest : List Char}
    (hsame : SameName name other) {empty : Bool}
    (henter : (s.enter strict ⟨name, rest⟩ empty).result = .ok u) :
    ∃ w, (t.enter strict ⟨other, rest⟩ empty).result = .ok w ∧ u.SameViews w := by
  by_cases hname : String.ofList name = "merge"
  · obtain rfl := eq_of_sameName_merge hsame (.inl hname)
    simp only [enter, hname, if_true, h.begun] at henter ⊢
    split at henter
    · cases henter
    · rename_i hbegun
      cases henter
      rw [if_neg hbegun]
      refine ⟨_, rfl, ?_, h.roots, rfl⟩
      cases empty
      · exact .cons .merge h.stack
      · exact h.stack
  · have hother : String.ofList other ≠ "merge" := by
      intro hmerge
      rw [eq_of_sameName_merge hsame (.inr hmerge)] at hname
      exact hname hmerge
    simp only [enter, hname, hother, if_false, Noted.result_bind, Noted.result_of,
      Outcome.Except_bind_eq_ok, Noted.result_pure, Except.ok.injEq] at henter ⊢
    obtain ⟨u, hplace, v, hbuild, rfl⟩ := henter
    refine ⟨_, ⟨(), h.checkPlace _ hplace, v, build_of_sameName hsame hbuild, rfl⟩, ?_⟩
    have hbegun : ({ s with begun := true } : Session).SameViews { t with begun := true } :=
      ⟨h.stack, h.roots, rfl⟩
    cases empty
    · exact ⟨.cons (.view ..) h.stack, h.roots, rfl⟩
    · exact hbegun.attach v

theorem step_of_respelled {s t u : Session} (h : s.SameViews t) {e f : Event}
    (hf : e.Respelled f) (hstep : (s.step strict e).result = .ok u) :
    ∃ w, (t.step strict f).result = .ok w ∧ u.SameViews w := by
  cases hf with
  | start rest hsame => exact enter_of_sameName h hsame hstep
  | empty rest hsame => exact enter_of_sameName h hsame hstep
  | same =>
      cases e with
      | start tag => exact enter_of_sameName h (.inl rfl) hstep
      | empty tag => exact enter_of_sameName h (.inl rfl) hstep
      | close => exact h.leave hstep
      | text content =>
          simp only [step] at hstep ⊢
          split at hstep
          · rename_i hblank
            cases hstep
            exact ⟨t, by rw [if_pos hblank]; rfl, h⟩
          · cases hstep
      | cdata => cases hstep
      | aside =>
          cases hstep
          exact ⟨t, rfl, h⟩

theorem Reads.of_respelled {s t u : Session} (h : s.SameViews t) {es fs : List Event}
    (hfs : List.Forall₂ Event.Respelled es fs) (hreads : Reads strict s es u) :
    ∃ w, Reads strict t fs w ∧ u.SameViews w := by
  induction hfs generalizing s t with
  | nil =>
      obtain rfl := hreads
      exact ⟨t, rfl, h⟩
  | cons hf _ ih =>
      obtain ⟨next, hnext, hrest⟩ := hreads
      obtain ⟨next', hnext', h'⟩ := step_of_respelled h hf hnext
      obtain ⟨w, hw, hsame⟩ := ih h' hrest
      exact ⟨w, ⟨next', hnext', hw⟩, hsame⟩

end Session

/-! ### Respelled documents -/

/-- A document and the same one with elements in other spellings: behind the marks, its tokens are
put together again with other tags of their kinds for some of the elements. -/
def Respells (source other : String) : Prop :=
  ∃ marks ts us, source.toList = marks ++ unmarked source ∧
    Markup.tokens (unmarked source) = ⟨ts, none⟩ ∧ Respelled [] ts us ∧
      other.toList = marks ++ us.flatMap Token.source

theorem unmarked_of_respelled {source other : String} {marks : List Char} {ts us : List Token}
    (hsource : source.toList = marks ++ unmarked source)
    (htokens : Markup.tokens (unmarked source) = ⟨ts, none⟩) (h : Respelled [] ts us)
    (hother : other.toList = marks ++ us.flatMap Token.source) :
    unmarked other = us.flatMap Token.source ∧
      Markup.tokens (unmarked other) = ⟨us, none⟩ := by
  obtain ⟨ds, hds, hhead⟩ := h.spells (Markup.spells_of_tokens htokens)
  exact unmarked_of_spells hsource hds hhead hother

theorem Respells.symm {source other : String} (h : Respells source other) :
    Respells other source := by
  obtain ⟨marks, ts, us, hsource, htokens, hrespelled, hother⟩ := h
  obtain ⟨hunmarked, htokens'⟩ := unmarked_of_respelled hsource htokens hrespelled hother
  refine ⟨marks, us, ts, by rw [hunmarked, hother], htokens', hrespelled.symm, ?_⟩
  rw [← (Markup.spells_of_tokens htokens).eq_flatMap]
  exact hsource

end Document

theorem Layout.read_of_respells {strict : Bool} {source other : String} {layout : Layout}
    (hother : Document.Respells source other) (h : (read strict source).result = .ok layout) :
    (read strict other).result = .ok layout := by
  obtain ⟨marks, ts, us, hmarks, htokens, hrespelled, hmarks'⟩ := hother
  obtain ⟨-, htokens'⟩ := Document.unmarked_of_respelled hmarks htokens hrespelled hmarks'
  obtain ⟨hstop, hevents⟩ := hrespelled.events 0 0 0 0
  rw [read_eq_ok_iff_reads, Markup.telling, Document.Session.reads_filter] at h ⊢
  rw [Document.markup_of_tokens htokens] at h
  rw [Document.markup_of_tokens htokens']
  obtain ⟨⟨stack, roots, begun⟩, hreads, hstack, hroots, hbegun⟩ :=
    h.2.of_respelled ⟨.nil, rfl, rfl⟩ hevents
  cases hstack
  cases hroots
  cases hbegun
  exact ⟨hstop.mp h.1, hreads⟩

end LayoutCompose
