import LayoutCompose.Proofs.Collection
import LayoutCompose.Proofs.DocumentText

/-!
Documents whose attributes are written in another order.

The attributes of a tag are collected in their order, but once collected they are asked for by
name, so the view of a tag does not depend on the order. Two documents that differ in nothing
else are read with the same layout, strictly or not, or both of them are not read. Such documents
come from a text in which the attributes of some tags are put in another order.
-/

namespace LayoutCompose

namespace Document

open Markup (Event Located RawAttribute Tag telling)

/-! ### Views of attributes with the same values -/

open Outcome (toOption_bind toOption_bind_congr)

/-- The same value for every name, under tags that mean the same. -/
structure Attributes.SameValues (attrs others : Attributes) : Prop where
  horizontal : (attrs.tag == "HorizontalScrollView") = (others.tag == "HorizontalScrollView")
  lookup : ∀ name, attrs.entries.lookup name = others.entries.lookup name

namespace Attributes.SameValues

variable {attrs others : Attributes}

theorem of_alike (h : attrs.Alike others) : attrs.SameValues others :=
  ⟨by rw [h.tag], h.lookup⟩

theorem get (h : attrs.SameValues others) {α : Type} (name : String)
    (read : String → Except Expectation α) :
    (attrs.get name read).toOption = (others.get name read).toOption := by
  rw [Attributes.get, Attributes.get, h.lookup]
  cases others.entries.lookup name with
  | none => rfl
  | some raw => cases hread : read raw <;> simp only [hread, Except.toOption]

theorem getD (h : attrs.SameValues others) {α : Type} (name : String)
    (read : String → Except Expectation α) (default : α) :
    (attrs.getD name read default).toOption = (others.getD name read default).toOption := by
  rw [Attributes.getD, Attributes.getD, toOption_bind, toOption_bind, h.get]

theorem either (h : attrs.SameValues others) {α : Type} (name other : String)
    (read : String → Except Expectation α) :
    (attrs.either name other read).toOption = (others.either name other read).toOption := by
  rw [Attributes.either, Attributes.either, toOption_bind, toOption_bind, h.get]
  congr 1
  funext value
  cases value with
  | some a => rfl
  | none => exact h.get other read

theorem require (attrs others : Attributes) {α : Type} (name : String) (value : Option α) :
    (attrs.require name value).toOption = (others.require name value).toOption := by
  cases value <;> rfl

theorem constraintsFrom (h : attrs.SameValues others) (table : List (String × Anchor × Anchor)) :
    (attrs.constraintsFrom table).toOption = (others.constraintsFrom table).toOption := by
  induction table with
  | nil => rfl
  | cons entry table ih =>
      obtain ⟨name, anchor, target⟩ := entry
      simp only [Attributes.constraintsFrom, toOption_bind, h.get, ih]

theorem edges (h : attrs.SameValues others) (base : String) :
    (attrs.edges base).toOption = (others.edges base).toOption := by
  simp only [Attributes.edges, toOption_bind, h.get, h.either]

theorem frame (h : attrs.SameValues others) : attrs.frame.toOption = others.frame.toOption := by
  unfold Attributes.frame
  refine toOption_bind_congr (h.constraintsFrom _) fun constraints => ?_
  refine toOption_bind_congr (h.get ..) fun id => ?_
  refine toOption_bind_congr (h.getD ..) fun width => ?_
  refine toOption_bind_congr (h.getD ..) fun height => ?_
  refine toOption_bind_congr (h.edges _) fun padding => ?_
  refine toOption_bind_congr (h.edges _) fun margin => ?_
  refine toOption_bind_congr (h.get ..) fun background => ?_
  refine toOption_bind_congr (h.getD ..) fun visibility => ?_
  refine toOption_bind_congr (h.getD ..) fun enabled => ?_
  refine toOption_bind_congr (h.getD ..) fun alpha => ?_
  refine toOption_bind_congr (h.getD ..) fun weight => ?_
  refine toOption_bind_congr (h.getD ..) fun gravity => ?_
  exact toOption_bind_congr (h.get ..) fun description => rfl

theorem frameOf (h : attrs.SameValues others) (kind : Kind) :
    (attrs.frameOf kind).toOption = (others.frameOf kind).toOption := by
  unfold Attributes.frameOf
  split
  · simp only [Attributes.inclusionFrame, toOption_bind, h.get, h.getD]
  · exact h.frame

theorem textProps (h : attrs.SameValues others) (fold : Bool) :
    (attrs.textProps fold).toOption = (others.textProps fold).toOption := by
  have hfold : (attrs.isFolded fold).toOption = (others.isFolded fold).toOption := by
    unfold isFolded
    split
    · exact h.getD ..
    · rfl
  simp only [Attributes.textProps, toOption_bind, hfold, h.get, h.getD]

theorem track (h : attrs.SameValues others) : attrs.track.toOption = others.track.toOption := by
  simp only [Attributes.track, toOption_bind, h.either, h.getD]

/-- A view depends on the values of the attributes alone, and a group that scrolls also on whether
its tag is the horizontal one. -/
theorem view (h : attrs.SameValues others) {kind : Kind} {v : View}
    (hview : attrs.view kind = .ok v) : others.view kind = .ok v := by
  have hsame : (attrs.view kind).toOption = (others.view kind).toOption := by
    cases kind <;>
      simp only [Attributes.view, Attributes.toggle, Attributes.gravity, toOption_bind,
        h.frameOf, h.textProps, h.track, h.get, h.getD, h.either, require attrs others,
        h.horizontal]
  rw [← Outcome.toOption_eq_some_iff] at hview ⊢
  rw [← hsame, hview]

end Attributes.SameValues

end Document

/-! ### Tags and documents in another order -/

namespace Markup

/-- The same tag but for the order of its attributes, all of them well-formed. -/
def Tag.Reordered (tag other : Tag) : Prop :=
  tag.name = other.name ∧ ∃ as bs, AttributesSpelled as tag.rest ∧
    AttributesSpelled bs other.rest ∧ as.Perm bs

inductive Event.Reordered : Event → Event → Prop
  | start {tag other : Tag} : tag.Reordered other → Reordered (.start tag) (.start other)
  | empty {tag other : Tag} : tag.Reordered other → Reordered (.empty tag) (.empty other)
  | same (e : Event) : Reordered e e

theorem Tag.Reordered.symm {tag other : Tag} (h : tag.Reordered other) : other.Reordered tag := by
  obtain ⟨hname, as, bs, has, hbs, hperm⟩ := h
  exact ⟨hname.symm, bs, as, hbs, has, hperm.symm⟩

/-- A key is repeated in both tags or in neither. -/
theorem Tag.Reordered.attributes {tag other : Tag} (h : tag.Reordered other)
    (hstop : tag.attributes.stop = none) : other.attributes.stop = none ∧
      (tag.attributes.items.map RawAttribute.written).Perm
        (other.attributes.items.map RawAttribute.written) := by
  obtain ⟨-, as, bs, has, hbs, hperm⟩ := h
  obtain ⟨hdistinct, hitems⟩ := attributes_of_spelled has
  obtain ⟨hdistinct', hitems'⟩ := attributes_of_spelled hbs
  have hstop' := hdistinct'.mpr (((hperm.map Prod.fst).nodup_iff).mp (hdistinct.mp hstop))
  rw [hitems hstop, hitems' hstop']
  exact ⟨hstop', hperm⟩

theorem Event.Reordered.symm {e f : Event} (h : e.Reordered f) : f.Reordered e := by
  cases h with
  | start h => exact .start h.symm
  | empty h => exact .empty h.symm
  | same => exact .same e

theorem Event.Reordered.isSilent {e f : Event} (h : e.Reordered f) : e.isSilent = f.isSilent := by
  cases h <;> rfl

/-! ### Texts with permuted attributes -/

def isNameChar (c : Char) : Bool :=
  !isSpace c && c != '"' && c != '\'' && c != '<' && c != '>' && c != '/' && c != '=' &&
    c != '!' && c != '?'

/-- The content of an opening tag, put together from a name and the text of attributes, with a slash
at its end if the element is empty. -/
structure OpeningSpelled (name : List Char) (as : List (List Char × List Char)) (empty : Bool)
    (content : List Char) : Prop where
  name_ne_nil : name ≠ []
  name_chars : ∀ c ∈ name, isNameChar c = true
  key_chars : ∀ a ∈ as, ∀ c ∈ a.1, isNameChar c = true
  text : ∃ rest, AttributesSpelled as rest ∧ (∀ c ∈ rest.head?, isSpace c = true) ∧
    content = name ++ (rest ++ if empty then ['/'] else [])

/-- The tag of an opening tag with the given content. -/
def Tag.ofOpening (content : List Char) : Tag :=
  .ofContent (if content.getLast? = some '/' then content.dropLast else content)

/-- The same token, but that an opening tag may have its attributes in another order. -/
inductive Token.Permuted : Token → Token → Prop
  | opening {name content other : List Char} {as bs : List (List Char × List Char)}
      {empty : Bool} : OpeningSpelled name as empty content →
        OpeningSpelled name bs empty other → as.Perm bs → Permuted (opening content) (opening other)
  | same (t : Token) : Permuted t t

theorem isSpace_of_isNameChar {c : Char} (h : isNameChar c = true) : isSpace c = false := by
  simp only [isNameChar, Bool.and_eq_true, Bool.not_eq_true'] at h
  grind

theorem ne_of_isNameChar {c d : Char} (hc : isNameChar c = true) (hd : isNameChar d = false) :
    c ≠ d := by
  rintro rfl
  rw [hc] at hd
  cases hd

theorem ne_of_isSpace {c d : Char} (hc : isSpace c = true) (hd : isSpace d = false) : c ≠ d := by
  rintro rfl
  rw [hc] at hd
  cases hd

theorem passedOver_of_isNameChar {text : List Char} (h : ∀ c ∈ text, isNameChar c = true) :
    PassedOver text :=
  passedOver_of_plain fun c hc => ⟨ne_of_isNameChar (h c hc) (by decide),
    ne_of_isNameChar (h c hc) (by decide), ne_of_isNameChar (h c hc) (by decide)⟩

theorem passedOver_of_isSpace {text : List Char} (h : ∀ c ∈ text, isSpace c = true) :
    PassedOver text :=
  passedOver_of_plain fun c hc => ⟨ne_of_isSpace (h c hc) (by decide),
    ne_of_isSpace (h c hc) (by decide), ne_of_isSpace (h c hc) (by decide)⟩

/-- What stands behind an attribute is looked at as if it stood alone. -/
theorem AttributeSpelled.passedOver {a : List Char × List Char} {cs rest : List Char}
    (h : AttributeSpelled a cs rest) (hkey : ∀ c ∈ a.1, isNameChar c = true)
    (hrest : PassedOver rest) : PassedOver cs := by
  cases h with
  | @mk c quote key gap gap' value _ _ _ hgap hgap' hquote hvalue =>
      have hequals : PassedOver ['='] := passedOver_singleton (by decide)
      have htext := (passedOver_of_isNameChar hkey).append ((passedOver_of_isSpace hgap).append
        (hequals.append ((passedOver_of_isSpace hgap').append
          ((passedOver_quoted hquote hvalue).append hrest))))
      simpa using htext

theorem AttributesSpelled.passedOver {as : List (List Char × List Char)} {rest : List Char}
    (h : AttributesSpelled as rest) (hkeys : ∀ a ∈ as, ∀ c ∈ a.1, isNameChar c = true) :
    PassedOver rest := by
  induction h with
  | nil hblank => exact passedOver_of_isSpace hblank
  | cons hblank ha _ ih =>
      obtain ⟨hkey, hkeys⟩ := List.forall_mem_cons.mp hkeys
      exact (passedOver_of_isSpace hblank).append (ha.passedOver hkey (ih hkeys))

/-- The text of attributes ends with a quote or with white space. -/
theorem AttributesSpelled.getLast?_ne_slash {as : List (List Char × List Char)} {rest : List Char}
    (h : AttributesSpelled as rest) : rest.getLast? ≠ some '/' := by
  induction h with
  | nil hblank => exact fun hlast => ne_of_isSpace (hblank _ (List.mem_of_getLast? hlast)) rfl rfl
  | @cons _ _ rest _ _ hblank ha _ ih =>
      cases ha with
      | @mk c quote key gap gap' value _ _ _ _ _ hquote _ =>
          have hne : quote ≠ '/' := by rcases hquote with rfl | rfl <;> decide
          cases hlast : rest.getLast? with
          | none => simpa [List.getLast?_append, List.getLast?_cons, hlast] using hne
          | some d =>
              rw [hlast] at ih
              simpa [List.getLast?_append, List.getLast?_cons, hlast] using ih

namespace OpeningSpelled

variable {name content : List Char} {as : List (List Char × List Char)} {empty : Bool}

theorem isMarked (h : OpeningSpelled name as empty content) : (Token.opening content).IsMarked := by
  obtain ⟨rest, hrest, -, rfl⟩ := h.text
  have hslash : PassedOver (if empty then ['/'] else []) := by
    cases empty
    · exact passedOver_nil
    · exact passedOver_singleton (by decide)
  refine ((passedOver_of_isNameChar h.name_chars).append
    ((hrest.passedOver h.key_chars).append hslash)).isMarked_opening (fun c hc => ?_)
    (List.append_ne_nil_of_left_ne_nil h.name_ne_nil _)
  rw [List.head?_append_of_ne_nil _ h.name_ne_nil] at hc
  have hchar := h.name_chars c (List.mem_of_mem_head? hc)
  exact ⟨ne_of_isNameChar hchar (by decide), ne_of_isNameChar hchar (by decide),
    ne_of_isNameChar hchar (by decide)⟩

theorem getLast?_eq_slash_iff (h : OpeningSpelled name as empty content) :
    content.getLast? = some '/' ↔ empty = true := by
  obtain ⟨rest, hrest, -, rfl⟩ := h.text
  cases empty
  · refine iff_of_false (fun hlast => ?_) Bool.false_ne_true
    rw [if_neg Bool.false_ne_true, List.append_nil, List.getLast?_append] at hlast
    cases hlast' : rest.getLast? with
    | none =>
        rw [hlast', Option.none_or] at hlast
        exact ne_of_isNameChar (h.name_chars _ (List.mem_of_getLast? hlast)) (by decide) rfl
    | some c =>
        rw [hlast', Option.some_or] at hlast
        exact hrest.getLast?_ne_slash (hlast'.trans hlast)
  · simp [← List.append_assoc]

/-- The content is read as a tag with the name and the text of the attributes. -/
theorem exists_tag (h : OpeningSpelled name as empty content) :
    ∃ rest, AttributesSpelled as rest ∧ Tag.ofOpening content = ⟨name, rest⟩ := by
  have hslash := h.getLast?_eq_slash_iff
  obtain ⟨rest, hrest, hhead, rfl⟩ := h.text
  have htag : Tag.ofContent (name ++ rest) = ⟨name, rest⟩ :=
    ofContent_append (fun c hc => isSpace_of_isNameChar (h.name_chars c hc)) hhead
  refine ⟨rest, hrest, ?_⟩
  rw [Tag.ofOpening]
  cases empty
  · rw [if_neg (mt hslash.mp Bool.false_ne_true), if_neg Bool.false_ne_true, List.append_nil, htag]
  · rw [if_pos (hslash.mpr rfl), if_pos rfl, ← List.append_assoc, List.dropLast_concat, htag]

end OpeningSpelled

def Tag.isNamed (tag : Tag) : Bool :=
  !tag.name.isEmpty && tag.name.all isNameChar && tag.attributes.stop.isNone &&
    tag.attributes.items.all fun raw => raw.key.all isNameChar

theorem openingSpelled_of_isNamed {content : List Char}
    (h : (Tag.ofOpening content).isNamed = true) :
    OpeningSpelled (Tag.ofOpening content).name
      ((Tag.ofOpening content).attributes.items.map RawAttribute.written)
      (content.getLast? = some '/') content := by
  simp only [Tag.isNamed, Bool.and_eq_true, Bool.not_eq_true', List.isEmpty_eq_false_iff,
    Option.isNone_iff_eq_none, List.all_eq_true] at h
  obtain ⟨⟨⟨hne, hname⟩, hstop⟩, hkeys⟩ := h
  refine ⟨hne, hname, ?_, (Tag.ofOpening content).rest, Tag.spelled_attributes hstop, ?_, ?_⟩
  · rintro a ha
    obtain ⟨raw, hraw, rfl⟩ := List.mem_map.mp ha
    exact hkeys raw hraw
  · intro c hc
    have hhead := List.head?_dropWhile_not (fun c => !isSpace c)
      (if content.getLast? = some '/' then content.dropLast else content)
    rw [show (List.dropWhile _ _).head? = some c from hc] at hhead
    simpa using hhead
  · rw [← List.append_assoc, show (Tag.ofOpening content).name ++ (Tag.ofOpening content).rest = _
      from List.takeWhile_append_dropWhile]
    by_cases hempty : content.getLast? = some '/'
    · simpa [hempty] using (List.dropLast_append_getLast? _ hempty).symm
    · simp [hempty]

def Token.isPermuted : Token → Token → Bool
  | opening content, opening other =>
    let tag := Tag.ofOpening content
    let tag' := Tag.ofOpening other
    decide (content.getLast? = some '/') == decide (other.getLast? = some '/') &&
      tag.name == tag'.name && tag.isNamed && tag'.isNamed &&
        decide ((tag.attributes.items.map RawAttribute.written).Perm
          (tag'.attributes.items.map RawAttribute.written))
  | t, u => t == u

theorem Token.permuted_of_isPermuted {t u : Token} (h : t.isPermuted u = true) : t.Permuted u := by
  unfold isPermuted at h
  split at h
  · rename_i content other
    simp only [Bool.and_eq_true, beq_iff_eq, decide_eq_true_iff] at h
    obtain ⟨⟨⟨⟨hempty, hname⟩, hnamed⟩, hnamed'⟩, hperm⟩ := h
    have hother := openingSpelled_of_isNamed hnamed'
    rw [← hname, ← hempty] at hother
    exact .opening (openingSpelled_of_isNamed hnamed) hother hperm
  · obtain rfl := eq_of_beq h
    exact .same t

/-- Permuted tokens can be read from a text of their own, which begins in the same way. -/
theorem Spells.of_permuted {ts us : List Token} (h : List.Forall₂ Token.Permuted ts us)
    {cs : List Char} (hts : Spells ts cs) : ∃ ds, Spells us ds ∧ ds.head? = cs.head? := by
  induction h generalizing cs with
  | nil =>
      cases hts
      exact ⟨[], .nil, rfl⟩
  | cons hpermuted _ ih =>
      cases hpermuted with
      | opening _ hother _ => exact hts.exists_cons (by simp) (fun _ => hother.isMarked) fun _ => ih
      | same => exact hts.exists_cons_self fun _ => ih

theorem events_of_permuted {ts us : List Token} (h : List.Forall₂ Token.Permuted ts us)
    (names : List (List Char)) (start here start' here' : Nat) :
    RelatedRuns Event.Reordered (eventsFrom none start here names ts)
      (eventsFrom none start' here' names us) := by
  induction h generalizing names start here start' here' with
  | nil => exact ⟨Iff.rfl, .nil⟩
  | @cons t u ts us hpermuted _ ih =>
      cases hpermuted with
      | @opening name content other as bs empty hcontent hother hperm =>
          obtain ⟨rest, hrest, htag⟩ := hcontent.exists_tag
          obtain ⟨rest', hrest', htag'⟩ := hother.exists_tag
          have hreordered : Tag.Reordered ⟨name, rest⟩ ⟨name, rest'⟩ :=
            ⟨rfl, as, bs, hrest, hrest', hperm⟩
          simp only [eventsFrom, Tag.ofOpening, hcontent.getLast?_eq_slash_iff,
            hother.getLast?_eq_slash_iff] at htag htag' ⊢
          cases empty
          · simp only [Bool.false_eq_true, if_false] at htag htag' ⊢
            rw [htag, htag']
            exact (ih ..).cons (.start hreordered) ..
          · simp only [if_true] at htag htag' ⊢
            rw [htag, htag']
            exact (ih ..).cons (.empty hreordered) ..
      | same =>
          by_cases ht : ∀ content, t ≠ .opening content ∧ t ≠ .closing content
          · exact .of_same .same ht (ih names) ..
          · cases t with
            | opening content =>
                simp only [eventsFrom]
                split
                · exact (ih ..).cons (.same _) ..
                · exact (ih ..).cons (.same _) ..
            | closing content =>
                cases names with
                | nil => exact .fail ..
                | cons name names =>
                    simp only [eventsFrom]
                    split
                    · exact (ih ..).cons (.same _) ..
                    · exact .fail ..
            | _ => exact absurd (by simp) ht

end Markup

namespace Document

open Markup (Event Located RawAttribute Tag Token telling)

open Element

/-- The same document but for the order of the attributes in each tag, and for what says
nothing. -/
structure Reordered (source other : String) : Prop where
  /-- Both are free of faults in their markup, or neither is. -/
  whole : (markup source).stop = none ↔ (markup other).stop = none
  events : List.Forall₂ Event.Reordered (telling (markup source).items)
    (telling (markup other).items)

theorem Reordered.symm {source other : String} (h : Reordered source other) :
    Reordered other source :=
  ⟨h.whole.symm, (h.events.imp fun _ _ h => h.symm).flip⟩

/-- A document and the same one with attributes in another order: behind the marks, its tokens are
put together again with the attributes of some opening tags permuted. -/
def Permutes (source other : String) : Prop :=
  ∃ marks ts us, source.toList = marks ++ unmarked source ∧
    Markup.tokens (unmarked source) = ⟨ts, none⟩ ∧ List.Forall₂ Token.Permuted ts us ∧
      other.toList = marks ++ us.flatMap Token.source

theorem Permutes.reordered {source other : String} (h : Permutes source other) :
    Reordered source other := by
  obtain ⟨marks, ts, us, hsource, htokens, hpermuted, hother⟩ := h
  obtain ⟨ds, hds, hhead⟩ := Markup.Spells.of_permuted hpermuted (Markup.spells_of_tokens htokens)
  obtain ⟨-, htokens'⟩ := unmarked_of_spells hsource hds hhead hother
  obtain ⟨hstop, hevents⟩ := Markup.events_of_permuted hpermuted [] 0 0 0 0
  rw [← markup_of_tokens htokens, ← markup_of_tokens htokens'] at hstop hevents
  refine ⟨hstop, List.rel_filter (fun e f hreordered => ?_) hevents⟩
  change (!e.isSilent) = true ↔ (!f.isSilent) = true
  rw [hreordered.isSilent]

theorem Permutes.of_isPermuted {source other : String} (hsource : source.toList = unmarked source)
    (hother : other.toList = unmarked other)
    (hstop : (Markup.tokens (unmarked source)).stop = none)
    (hstop' : (Markup.tokens (unmarked other)).stop = none)
    (h : List.Forall₂ (fun t u => Token.isPermuted t u = true)
      (Markup.tokens (unmarked source)).items (Markup.tokens (unmarked other)).items) :
    Permutes source other := by
  refine ⟨[], _, _, hsource, by rw [← hstop],
    h.imp fun _ _ => Markup.Token.permuted_of_isPermuted, ?_⟩
  rw [List.nil_append, hother]
  exact (Markup.spells_of_tokens (by rw [← hstop'])).eq_flatMap

variable {strict : Bool}

theorem attributesOf_eq_ok_iff {kind : Kind} {name : String} {tag : Tag} {attrs : Attributes} :
    (attributesOf strict kind name tag).result = .ok attrs ↔ tag.attributes.stop = none ∧
      CollectsAll strict kind { tag := name } (tag.attributes.items.map RawAttribute.written)
        attrs := by
  simp only [attributesOf, Noted.result_bind, Outcome.Except_bind_eq_ok, collectAll_eq_ok_iff]
  cases tag.attributes.stop with
  | none => simp
  | some fault => simp

theorem Element.Bare.of_reordered {tag other : Tag} {kind : Kind} {v : View}
    (h : Bare strict tag kind v) (hother : tag.Reordered other) : Bare strict other kind v := by
  obtain ⟨hkind, attrs, hattrs, hview⟩ := h
  obtain ⟨hstop, hall⟩ := attributesOf_eq_ok_iff.mp hattrs
  obtain ⟨hstop', hperm⟩ := hother.attributes hstop
  obtain ⟨others, hothers, hlike⟩ := hall.of_perm hperm
  rw [hother.1] at hkind hothers
  exact ⟨hkind, others, attributesOf_eq_ok_iff.mpr ⟨hstop', hothers⟩,
    (Attributes.SameValues.of_alike hlike).view hview⟩

namespace Session

theorem enter_of_reordered {s t : Session} {tag other : Tag} {empty : Bool}
    (hother : tag.Reordered other) (h : (s.enter strict tag empty).result = .ok t) :
    (s.enter strict other empty).result = .ok t := by
  have hbuild : ∀ v, (build strict (String.ofList tag.name) tag).result = .ok v →
      (build strict (String.ofList other.name) other).result = .ok v := by
    intro v hv
    obtain ⟨kind, hbare⟩ := build_eq_ok_iff.mp hv
    exact build_eq_ok_iff.mpr ⟨kind, hbare.of_reordered hother⟩
  unfold enter at h ⊢
  rw [← hother.1] at hbuild ⊢
  by_cases hname : String.ofList tag.name = "merge"
  · simp only [hname, ↓reduceIte] at h ⊢
    exact h
  · simp only [hname, ↓reduceIte, Noted.result_bind, Noted.result_of, Outcome.Except_bind_eq_ok]
      at h ⊢
    obtain ⟨place, hplace, v, hv, ht⟩ := h
    exact ⟨place, hplace, v, hbuild v hv, ht⟩

theorem step_of_reordered {s t : Session} {e f : Event} (hf : e.Reordered f)
    (h : (s.step strict e).result = .ok t) : (s.step strict f).result = .ok t := by
  cases hf with
  | start hother => exact enter_of_reordered hother h
  | empty hother => exact enter_of_reordered hother h
  | same => exact h

theorem Reads.of_reordered {s t : Session} {es fs : List Event}
    (hfs : List.Forall₂ Event.Reordered es fs) (h : Reads strict s es t) :
    Reads strict s fs t := by
  induction hfs generalizing s with
  | nil => exact h
  | cons hf _ ih =>
      obtain ⟨u, hu, hrest⟩ := h
      exact ⟨u, step_of_reordered hf hu, ih hrest⟩

end Session

end Document

theorem Layout.read_eq_ok_iff_reads {strict : Bool} {source : String} {layout : Layout} :
    (read strict source).result = .ok layout ↔ (Document.markup source).stop = none ∧
      Document.Session.Reads strict {} (Markup.telling (Document.markup source).items)
        ⟨[], layout.roots, true⟩ := by
  rw [read, Noted.result_mapError, Outcome.mapError_eq_ok, Document.readUnmarked,
    Document.ofEvents_eq_ok_iff_reads]
  rfl

theorem Layout.read_of_reordered {strict : Bool} {source other : String} {layout : Layout}
    (hother : Document.Reordered source other) (h : (read strict source).result = .ok layout) :
    (read strict other).result = .ok layout := by
  obtain ⟨hstop, hreads⟩ := read_eq_ok_iff_reads.mp h
  exact read_eq_ok_iff_reads.mpr ⟨hother.whole.mp hstop, hreads.of_reordered hother.events⟩

/-- A document in which the attributes of each tag are written in another order is read, strictly
or not, exactly if the document itself is, and with the same layout. -/
theorem Layout.read_ignores_attribute_order {source other : String}
    (hother : Document.Reordered source other) (strict : Bool) (layout : Layout) :
    (read strict source).result = .ok layout ↔ (read strict other).result = .ok layout :=
  ⟨read_of_reordered hother, read_of_reordered hother.symm⟩

/-- Keys of other namespaces, a name outside the vocabulary, two names for one bound and two ways to
give a side are put in another order, in an element and in its child. -/
theorem Layout.read_ignores_attribute_order_slider : ∃ layout,
    (read false ("<Box xmlns:a=\"a\" gravity=\"end\"><SeekBar a:max=\"9\" valueTo=\"5\" " ++
      "padding=\"8dp\" paddingStart='4dp' tools:max=\"7\" tint=\"red\"/></Box>")).result =
        .ok layout ∧
    (read false ("<Box gravity=\"end\" xmlns:a=\"a\"><SeekBar tint='red' paddingStart='4dp' " ++
      "padding=\"8dp\" tools:max=\"7\" valueTo=\"5\" a:max=\"9\"/></Box>")).result =
        .ok layout := by
  obtain ⟨layout, hread⟩ : Outcome.Succeeds (read false
      ("<Box xmlns:a=\"a\" gravity=\"end\"><SeekBar a:max=\"9\" valueTo=\"5\" " ++
        "padding=\"8dp\" paddingStart='4dp' tools:max=\"7\" tint=\"red\"/></Box>")).result := by
    decide +kernel
  refine ⟨layout, hread, (read_ignores_attribute_order (Document.Permutes.reordered
    (.of_isPermuted ?_ ?_ ?_ ?_ ?_)) false layout).mp hread⟩ <;> decide +kernel

end LayoutCompose
