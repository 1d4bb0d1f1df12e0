import LayoutCompose.Proofs.Collection
import LayoutCompose.Proofs.Element

/-!
Strict reading.

A strict reader differs from a lenient one in a single point: it refuses an attribute that the
kind of the element does not understand, where the lenient one leaves it out. The refusal comes
between other checks, at each attribute of each element, so what it does to a whole document is
followed step by step: up to the first such attribute both readers do the same.
-/

namespace LayoutCompose

/-! ### One result stricter than another -/

/-- The result `x` is `y`, or a refusal with a cause of the kind `P` in its place. It is `y` if
`K`, and if it is a value then `K`. -/
structure Outcome.Stricter {ε α : Type} (P : ε → Prop) (K : Prop) (x y : Except ε α) : Prop where
  eq_or_refused : x = y ∨ ∃ e, P e ∧ x = .error e
  eq_of_known : K → x = y
  known_of_ok : ∀ a, x = .ok a → K

namespace Outcome.Stricter

variable {ε δ α β : Type} {P : ε → Prop} {K L : Prop} {x y : Except ε α}

/-- A step without a refusal of its own. -/
theorem refl (P : ε → Prop) (hK : K) (x : Except ε α) : Stricter P K x x :=
  ⟨.inl rfl, fun _ => rfl, fun _ _ => hK⟩

theorem refused {e : ε} (he : P e) (hK : ¬K) : Stricter P K (.error e) y where
  eq_or_refused := .inr ⟨e, he, rfl⟩
  eq_of_known h := absurd h hK
  known_of_ok _ h := nomatch h

theorem imp {Q : ε → Prop} (h : Stricter P K x y) (hQ : ∀ e, P e → Q e) : Stricter Q K x y where
  eq_or_refused := h.eq_or_refused.imp_right fun ⟨e, he, hx⟩ => ⟨e, hQ e he, hx⟩
  eq_of_known := h.eq_of_known
  known_of_ok := h.known_of_ok

theorem mapError {Q : δ → Prop} {f : ε → δ} (h : Stricter P K x y) (hQ : ∀ e, P e → Q (f e)) :
    Stricter Q K (x.mapError f) (y.mapError f) where
  eq_or_refused := by
    rcases h.eq_or_refused with rfl | ⟨e, he, rfl⟩
    · exact .inl rfl
    · exact .inr ⟨f e, hQ e he, rfl⟩
  eq_of_known hk := by rw [h.eq_of_known hk]
  known_of_ok a ha := h.known_of_ok a (mapError_eq_ok.mp ha)

/-- Steps are made one after the other until one of them is refused. -/
theorem bind {f g : α → Except ε β} (h : Stricter P K x y)
    (hf : ∀ a, y = .ok a → Stricter P L (f a) (g a)) :
    Stricter P (K ∧ L) (x.bind f) (y.bind g) := by
  rcases h.eq_or_refused with rfl | ⟨e, he, rfl⟩
  · cases x with
    | error e =>
        refine ⟨.inl rfl, fun _ => rfl, fun b hb => ?_⟩
        cases hb
    | ok a =>
        have hstep := hf a rfl
        exact ⟨hstep.eq_or_refused, fun hk => hstep.eq_of_known hk.2, fun b hb =>
          ⟨h.known_of_ok a rfl, hstep.known_of_ok b hb⟩⟩
  · refine ⟨.inr ⟨e, he, rfl⟩, fun hk => ?_, fun b hb => ?_⟩
    · rw [← h.eq_of_known hk.1]
      rfl
    · cases hb

theorem bind_same {f : α → Except ε β} (h : Stricter P K x y) :
    Stricter P K (x.bind f) (y.bind f) := by
  rw [← and_true K]
  exact h.bind fun a _ => refl P trivial (f a)

theorem same_bind {f g : α → Except ε β} (hf : ∀ a, Stricter P K (f a) (g a)) :
    Stricter P K (x.bind f) (x.bind g) := by
  rw [← true_and K]
  exact (refl P trivial x).bind fun a _ => hf a

end Outcome.Stricter

open Outcome (Stricter)

namespace Document

open Markup (Event Located RawAttribute Tag)

/-! ### Attributes outside the vocabulary -/

/-- Whether an element of the kind may carry an attribute with this key: the key is not for us,
or its bare name is in the vocabulary. -/
def understands (kind : Kind) (key : List Char) : Bool :=
  match bareName? key with
  | none => true
  | some bare => (kind.entry? (String.ofList bare)).isSome

/-- The attributes of a tag that its kind does not understand. A tag that stands for no kind, like
the one that merges roots, has none. -/
def strangers (tag : Tag) : List RawAttribute :=
  match Kind.ofTag? (String.ofList tag.name) with
  | none => []
  | some kind => tag.attributes.items.filter fun raw => !understands kind raw.key

def Understood (ts : List Tag) : Prop :=
  ∀ tag ∈ ts, strangers tag = []

instance (ts : List Tag) : Decidable (Understood ts) :=
  inferInstanceAs (Decidable (∀ tag ∈ ts, strangers tag = []))

/-- The cause names an attribute outside the vocabulary, of one of the tags. -/
def Refuses (ts : List Tag) (c : Cause) : Prop :=
  ∃ tag ∈ ts, ∃ raw ∈ strangers tag,
    c = .unknownAttribute (String.ofList tag.name) (String.ofList raw.key)

/-- The tag with which an event begins an element. -/
def tagOf? : Event → Option Tag
  | .start tag | .empty tag => some tag
  | _ => none

def tagsOf (es : List (Located Event)) : List Tag :=
  es.flatMap fun e => (tagOf? e.value).toList

def tags (source : String) : List Tag :=
  tagsOf (markup source).items

theorem understood_singleton {tag : Tag} {kind : Kind}
    (hkind : Kind.ofTag? (String.ofList tag.name) = some kind) :
    Understood [tag] ↔ ∀ raw ∈ tag.attributes.items, understands kind raw.key = true := by
  simp [Understood, strangers, hkind]

theorem understood_of_ofTag?_eq_none {tag : Tag}
    (hkind : Kind.ofTag? (String.ofList tag.name) = none) : Understood [tag] := by
  simp [Understood, strangers, hkind]

@[simp] theorem understood_append {ts us : List Tag} :
    Understood (ts ++ us) ↔ Understood ts ∧ Understood us :=
  List.forall_mem_append

theorem refuses_singleton {tag : Tag} {kind : Kind} {raw : RawAttribute}
    (hkind : Kind.ofTag? (String.ofList tag.name) = some kind) (hraw : raw ∈ tag.attributes.items)
    (hstrange : understands kind raw.key = false) :
    Refuses [tag] (.unknownAttribute (String.ofList tag.name) (String.ofList raw.key)) :=
  ⟨tag, List.mem_singleton_self tag, raw, by simp [strangers, hkind, hraw, hstrange], rfl⟩

theorem Refuses.mono {ts us : List Tag} {c : Cause} (h : Refuses ts c) (hsub : ts ⊆ us) :
    Refuses us c := by
  obtain ⟨tag, htag, hraw⟩ := h
  exact ⟨tag, hsub htag, hraw⟩

/-! ### Both readers, step by step -/

theorem collect_stricter {P : Cause → Prop} {kind : Kind} {attrs : Attributes}
    {raw : RawAttribute} (hP : understands kind raw.key = false →
      P (.unknownAttribute attrs.tag (String.ofList raw.key))) :
    Stricter P (understands kind raw.key = true) (collect true kind attrs raw).result
      (collect false kind attrs raw).result := by
  unfold understands at hP ⊢
  unfold collect
  cases hbare : bareName? raw.key with
  | none => exact .refl P rfl _
  | some bare =>
      simp only [hbare] at hP ⊢
      by_cases hnew : attrs.contains (String.ofList bare) = true
      · simp only [hnew, ↓reduceIte]
        refine ⟨.inl rfl, fun _ => rfl, fun a ha => ?_⟩
        cases ha
      · simp only [hnew, Bool.false_eq_true, ↓reduceIte]
        cases hentry : kind.entry? (String.ofList bare) with
        | none => exact .refused (hP (by rw [hentry]; rfl)) (by simp)
        | some entry => exact .refl P rfl _

theorem collectAll_stricter {P : Cause → Prop} {kind : Kind} (attrs : Attributes)
    {raws : List RawAttribute} (hP : ∀ raw ∈ raws, understands kind raw.key = false →
      P (.unknownAttribute attrs.tag (String.ofList raw.key))) :
    Stricter P (∀ raw ∈ raws, understands kind raw.key = true)
      (collectAll true kind attrs raws).result (collectAll false kind attrs raws).result := by
  induction raws generalizing attrs with
  | nil => exact .refl P (by simp) _
  | cons raw raws ih =>
      rw [collectAll, collectAll, Noted.result_bind, Noted.result_bind, List.forall_mem_cons]
      rw [List.forall_mem_cons] at hP
      refine (collect_stricter hP.1).bind fun t ht => ih t ?_
      rw [(collect_eq_ok_iff.mp ht).tag_eq]
      exact hP.2

theorem attributesOf_stricter {tag : Tag} {kind : Kind}
    (hkind : Kind.ofTag? (String.ofList tag.name) = some kind) :
    Stricter (Refuses [tag]) (Understood [tag])
      (attributesOf true kind (String.ofList tag.name) tag).result
      (attributesOf false kind (String.ofList tag.name) tag).result := by
  rw [understood_singleton hkind]
  simp only [attributesOf, Noted.result_bind]
  have hall := collectAll_stricter { tag := String.ofList tag.name }
    fun raw hraw hstrange => refuses_singleton hkind hraw hstrange
  exact hall.bind_same

namespace Session

theorem build_stricter (tag : Tag) :
    Stricter (Refuses [tag]) (Understood [tag]) (build true (String.ofList tag.name) tag).result
      (build false (String.ofList tag.name) tag).result := by
  unfold build
  cases hkind : Kind.ofTag? (String.ofList tag.name) with
  | none => exact .refl _ (understood_of_ofTag?_eq_none hkind) _
  | some kind =>
      simp only [Noted.result_bind]
      exact (attributesOf_stricter hkind).bind_same

theorem enter_stricter (s : Session) (tag : Tag) (empty : Bool) :
    Stricter (Refuses [tag]) (Understood [tag]) (s.enter true tag empty).result
      (s.enter false tag empty).result := by
  unfold enter
  by_cases hname : String.ofList tag.name = "merge"
  · simp only [hname, ↓reduceIte]
    exact .refl _ (understood_of_ofTag?_eq_none (hname ▸ Kind.ofTag?_merge)) _
  · simp only [hname, ↓reduceIte, Noted.result_bind]
    exact .same_bind fun _ => (build_stricter tag).bind_same

theorem step_stricter (s : Session) (e : Event) :
    Stricter (Refuses (tagOf? e).toList) (Understood (tagOf? e).toList)
      (s.step true e).result (s.step false e).result := by
  cases e with
  | start tag => exact s.enter_stricter tag false
  | empty tag => exact s.enter_stricter tag true
  | close | text _ | cdata | aside => exact .refl _ (List.forall_mem_nil _) _

theorem run_stricter (s : Session) (es : List (Located Event)) :
    Stricter (fun c => Refuses (tagsOf es) c.value) (Understood (tagsOf es))
      (run true s es).result (run false s es).result := by
  induction es generalizing s with
  | nil => exact .refl _ (List.forall_mem_nil _) _
  | cons e es ih =>
      -- The event may be refused for its own tag, and those behind it for theirs.
      rw [tagsOf, List.flatMap_cons, ← tagsOf, understood_append]
      simp only [run, Noted.result_bind, Noted.result_mapError]
      refine Stricter.bind ((s.step_stricter e.value).mapError fun c hc => ?_) fun t _ =>
        (ih t).imp fun c hc => ?_
      · exact hc.mono (List.subset_append_left _ _)
      · exact hc.mono (List.subset_append_right _ _)

end Session

theorem ofEvents_stricter (length : Nat) (run : Run (Located Markup.Fault) (Located Event)) :
    Stricter (fun c => Refuses (tagsOf run.items) c.value) (Understood (tagsOf run.items))
      (ofEvents true length run).result (ofEvents false length run).result := by
  simp only [ofEvents, Noted.result_bind]
  exact (Session.run_stricter {} run.items).bind_same

end Document

open Document (Refuses Understood tags)

theorem Layout.read_stricter (source : String) :
    Stricter (fun e => Refuses (tags source) e.cause) (Understood (tags source))
      (read true source).result (read false source).result :=
  (Document.ofEvents_stricter _ _).mapError fun _ hc => hc

/-- Strictness only turns attributes that would be left out into refusals. What is read strictly
is read leniently as well. What is read leniently is read strictly with the same layout exactly if
no attribute is outside the vocabulary of its element, and one that is outside is refused
otherwise. Where lenient reading fails, strict reading fails with the same error, unless it has
refused an attribute before. -/
theorem Layout.read_strict_refines_lenient (source : String) :
    (∀ layout, (read true source).result = .ok layout → (read false source).result = .ok layout) ∧
    (∀ layout, (read false source).result = .ok layout →
      ((read true source).result = .ok layout ∨
        ∃ e, Refuses (tags source) e.cause ∧ (read true source).result = .error e) ∧
      ((read true source).result = .ok layout ↔ Understood (tags source))) ∧
    (∀ e, (read false source).result = .error e →
      (read true source).result = .error e ∨
        ∃ e', Refuses (tags source) e'.cause ∧ (read true source).result = .error e') := by
  have h := read_stricter source
  refine ⟨fun layout hlayout => ?_, fun layout hlayout => ⟨?_, ?_, ?_⟩, fun e he => ?_⟩
  · rw [← h.eq_of_known (h.known_of_ok layout hlayout)]
    exact hlayout
  · exact hlayout ▸ h.eq_or_refused
  · exact h.known_of_ok layout
  · intro hknown
    rw [h.eq_of_known hknown]
    exact hlayout
  · exact he ▸ h.eq_or_refused

example : Outcome.Succeeds (Layout.read false "<View tools:tint=\"blue\" tint=\"red\"/>").result ∧
    ¬Outcome.Succeeds (Layout.read true "<View tools:tint=\"blue\" tint=\"red\"/>").result ∧
      ¬Understood (tags "<View tools:tint=\"blue\" tint=\"red\"/>") := by
  decide +kernel

end LayoutCompose
