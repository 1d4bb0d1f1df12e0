import LayoutCompose.Proofs.Element
import LayoutCompose.Proofs.TokenSource

/-!
Documents that are put together again from changed tokens.

Behind the marks in front of it, a document is its tokens one after the other. Markup in the place
of other markup leaves the tokens around it as they are, so the document that comes of it is read as
the changed tokens, and its events are compared with the first ones token by token.
-/

namespace LayoutCompose

namespace Markup

variable {cs content rest : List Char}

/-! ### Cutting off a tag -/

/-- The end of a tag is neither in a text nor in quotes that are open behind it. -/
def PassedOver (text : List Char) : Prop :=
  ∀ cs, cutTag none (text ++ cs) =
    (cutTag none cs).map fun (content, rest) => (text ++ content, rest)

@[simp] theorem passedOver_nil : PassedOver [] := fun cs => by simp

theorem PassedOver.append {text other : List Char} (h : PassedOver text)
    (hother : PassedOver other) : PassedOver (text ++ other) := by
  intro cs
  rw [List.append_assoc, h, hother, Option.map_map]
  congr 1
  funext cut
  simp

theorem passedOver_of_plain {text : List Char}
    (h : ∀ c ∈ text, c ≠ '>' ∧ c ≠ '"' ∧ c ≠ '\'') : PassedOver text := by
  induction text with
  | nil => exact passedOver_nil
  | cons c text ih =>
      intro cs
      obtain ⟨⟨hbracket, hdouble, hsingle⟩, htext⟩ := List.forall_mem_cons.mp h
      rw [List.cons_append, cutTag, if_neg hbracket, if_neg (not_or.mpr ⟨hdouble, hsingle⟩),
        ih htext, Option.map_map]
      rfl

theorem passedOver_singleton {c : Char} (h : c ≠ '>' ∧ c ≠ '"' ∧ c ≠ '\'') : PassedOver [c] :=
  passedOver_of_plain (List.forall_mem_singleton.mpr h)

theorem cutTag_some_append {quote : Char} {value : List Char} (hvalue : quote ∉ value)
    (cs : List Char) : cutTag (some quote) (value ++ quote :: cs) =
      (cutTag none cs).map fun (content, rest) => (value ++ quote :: content, rest) := by
  induction value with
  | nil =>
      rw [List.nil_append, cutTag, if_pos rfl]
      rfl
  | cons c value ih =>
      rw [List.mem_cons, not_or] at hvalue
      rw [List.cons_append, cutTag, if_neg (Ne.symm hvalue.1), ih hvalue.2, Option.map_map]
      rfl

theorem passedOver_quoted {quote : Char} {value : List Char} (hquote : quote = '"' ∨ quote = '\'')
    (hvalue : quote ∉ value) : PassedOver (quote :: (value ++ [quote])) := by
  intro cs
  have hbracket : quote ≠ '>' := by rcases hquote with rfl | rfl <;> decide
  rw [List.cons_append, List.append_assoc, cutTag, if_neg hbracket, if_pos hquote,
    List.singleton_append, cutTag_some_append hvalue, Option.map_map]
  congr 1
  funext cut
  simp

/-- A tag is cut off after a text as it is from its beginning. -/
theorem PassedOver.cutTag_eq_some_iff {text : List Char} (h : PassedOver text) :
    cutTag none (text ++ cs) = some (text ++ content, rest) ↔
      cutTag none cs = some (content, rest) := by
  rw [h, Option.map_eq_some_iff]
  constructor
  · rintro ⟨⟨content', rest'⟩, hcut, hpair⟩
    rw [Prod.mk.injEq] at hpair
    rw [hcut, List.append_cancel_left hpair.1, hpair.2]
  · exact fun hcut => ⟨_, hcut, rfl⟩

theorem PassedOver.isMarked_opening (h : PassedOver content)
    (hhead : ∀ c ∈ content.head?, c ≠ '!' ∧ c ≠ '?' ∧ c ≠ '/') (hne : content ≠ []) :
    (Token.opening content).IsMarked := by
  intro rest
  refine ⟨_, source_opening_append content rest, ?_⟩
  rw [nextMarkup_opening, token_eq_ok_iff]
  · refine ⟨content, ?_, rfl⟩
    rw [h, cutTag, if_pos rfl]
    simp
  · rw [List.head?_append_of_ne_nil _ hne]
    exact hhead

/-! ### Markup in the place of other markup -/

theorem Token.IsMarked.head? {t : Token} (h : t.IsMarked) (rest : List Char) :
    (t.source ++ rest).head? = some '<' := by
  obtain ⟨cs, hsource, -⟩ := h rest
  rw [hsource]
  rfl

theorem Token.ReadsBefore.isMarked {t : Token} (h : t.ReadsBefore rest)
    (ht : ∀ content, t ≠ .text content) : t.IsMarked := by
  rcases h with hmarked | ⟨content, rfl, -⟩
  · exact hmarked
  · exact absurd rfl (ht content)

/-- Markup can be put in the place of other markup, and the text begins with a bracket as before. -/
theorem Spells.exists_cons {t u : Token} {ts us : List Token} (hts : Spells (t :: ts) cs)
    (ht : ∀ content, t ≠ .text content) (hu : t.IsMarked → u.IsMarked)
    (hus : ∀ rest, Spells ts rest → ∃ ds, Spells us ds ∧ ds.head? = rest.head?) :
    ∃ ds, Spells (u :: us) ds ∧ ds.head? = cs.head? := by
  cases hts with
  | cons hreads hrest =>
      obtain ⟨ds, hds, -⟩ := hus _ hrest
      have hmarked := hreads.isMarked ht
      have hother := hu hmarked
      exact ⟨_, .cons (.inl hother) hds, by rw [hmarked.head?, hother.head?]⟩

/-- A token can stay where it is. Text still ends there, as the rest begins in the same way. -/
theorem Spells.exists_cons_self {t : Token} {ts us : List Token} (hts : Spells (t :: ts) cs)
    (hus : ∀ rest, Spells ts rest → ∃ ds, Spells us ds ∧ ds.head? = rest.head?) :
    ∃ ds, Spells (t :: us) ds ∧ ds.head? = cs.head? := by
  cases hts with
  | cons hreads hrest =>
      obtain ⟨ds, hds, hhead⟩ := hus _ hrest
      refine ⟨_, .cons ?_ hds, ?_⟩
      · exact hreads.imp_right fun ⟨content, heq, hne, hmem, hstop⟩ =>
          ⟨content, heq, hne, hmem, by rw [hhead]; exact hstop⟩
      · rcases hreads with hmarked | ⟨content, rfl, hne, -⟩
        · rw [hmarked.head?, hmarked.head?]
        · exact (List.head?_append_of_ne_nil _ hne).trans
            (List.head?_append_of_ne_nil _ hne).symm

/-! ### Events of the changed tokens -/

theorem ofContent_append {name : List Char} (hname : ∀ c ∈ name, isSpace c = false)
    (hrest : ∀ c ∈ rest.head?, isSpace c = true) : Tag.ofContent (name ++ rest) = ⟨name, rest⟩ := by
  have hsolid : ∀ c ∈ name, (!isSpace c) = true := fun c hc => by rw [hname c hc]; rfl
  obtain ⟨htake, hdrop⟩ := Text.span_append hsolid fun c hc => by rw [hrest c hc]; rfl
  rw [Tag.ofContent, htake, hdrop]

/-- Events one by one in a relation, with a fault behind both or behind neither. -/
def RelatedRuns (relation : Event → Event → Prop) (es fs : Run (Located Fault) (Located Event)) :
    Prop :=
  (es.stop = none ↔ fs.stop = none) ∧
    List.Forall₂ relation (es.items.map Located.value) (fs.items.map Located.value)

namespace RelatedRuns

variable {relation : Event → Event → Prop}

theorem fail (fault other : Located Fault) : RelatedRuns relation (.fail fault) (.fail other) :=
  ⟨iff_of_false (by simp [Run.fail]) (by simp [Run.fail]), .nil⟩

theorem cons {es fs : Run (Located Fault) (Located Event)} {e f : Event}
    (h : RelatedRuns relation es fs) (hef : relation e f) (start start' : Nat) :
    RelatedRuns relation (.cons ⟨start, e⟩ es) (.cons ⟨start', f⟩ fs) :=
  ⟨h.1, .cons hef h.2⟩

/-- A token that neither opens nor closes an element, in front of related tokens. -/
theorem of_same (hrefl : ∀ e, relation e e) {names names' : List (List Char)}
    {t : Token} {ts us : List Token} (ht : ∀ content, t ≠ .opening content ∧ t ≠ .closing content)
    (h : ∀ start here start' here', RelatedRuns relation (eventsFrom none start here names ts)
      (eventsFrom none start' here' names' us)) (start here start' here' : Nat) :
    RelatedRuns relation (eventsFrom none start here names (t :: ts))
      (eventsFrom none start' here' names' (t :: us)) := by
  cases t with
  | opening content => exact absurd rfl (ht content).1
  | closing content => exact absurd rfl (ht content).2
  | text content =>
      simp only [eventsFrom]
      split
      · exact h ..
      · exact (h ..).cons (hrefl _) ..
  | doctype content =>
      simp only [eventsFrom]
      split
      · exact fail ..
      · exact (h ..).cons (hrefl _) ..
  | comment content => exact (h ..).cons (hrefl _) ..
  | cdata content => exact (h ..).cons (hrefl _) ..
  | instruction content => exact (h ..).cons (hrefl _) ..

end RelatedRuns

end Markup

namespace Document

open Markup (Spells Token)

/-! ### The marks in front of a document -/

/-- The text of a document behind the marks in front of it. -/
def unmarked (source : String) : List Char :=
  Text.dropHead [byteOrderMark] (Text.dropHead [byteOrderMark] source.toList)

theorem markup_of_tokens {source : String} {ts : List Token}
    (h : Markup.tokens (unmarked source) = ⟨ts, none⟩) :
    markup source = Markup.eventsFrom none 0 0 [] ts := by
  rw [markup, Markup.events, ← unmarked, h]

theorem length_dropHead (mark : Char) (cs : List Char) :
    cs.length ≤ (Text.dropHead [mark] cs).length + 1 ∧
      (Text.dropHead [mark] cs).length ≤ cs.length := by
  cases cs with
  | nil => exact ⟨Nat.le_succ _, Nat.le_refl _⟩
  | cons c cs =>
      rw [Text.dropHead_cons]
      split
      · exact ⟨Nat.le_refl _, Nat.le_succ _⟩
      · exact ⟨Nat.le_succ _, Nat.le_refl _⟩

/-- Whether a text begins with a mark is settled by its first character. -/
theorem dropHead_eq_self {mark : Char} {cs ds : List Char} (hhead : ds.head? = cs.head?)
    (hcs : cs.length ≤ (Text.dropHead [mark] cs).length) : Text.dropHead [mark] ds = ds := by
  cases ds with
  | nil => rfl
  | cons d ds =>
      cases cs with
      | nil => cases hhead
      | cons c cs =>
          obtain rfl : d = c := Option.some.inj hhead
          rw [Text.dropHead_cons, if_neg]
          rintro rfl
          rw [Text.dropHead_cons, if_pos rfl, List.length_cons] at hcs
          omega

/-- Up to two marks are taken off, and as many are taken off in front of another text that begins
in the same way. The lengths tell how many of the characters in front are marks. -/
theorem dropHead_dropHead_append {mark : Char} {marks cs ds : List Char}
    (hcs : Text.dropHead [mark] (Text.dropHead [mark] (marks ++ cs)) = cs)
    (hhead : ds.head? = cs.head?) :
    Text.dropHead [mark] (Text.dropHead [mark] (marks ++ ds)) = ds := by
  have hlength := congrArg List.length hcs
  have hfirst := length_dropHead mark (marks ++ cs)
  have hsecond := length_dropHead mark (Text.dropHead [mark] (marks ++ cs))
  rw [List.length_append] at hfirst
  rcases marks with _ | ⟨a, _ | ⟨b, _ | ⟨c, marks⟩⟩⟩
  · rw [List.nil_append] at *
    have hself : Text.dropHead [mark] ds = ds := dropHead_eq_self hhead (by omega)
    rw [hself, hself]
  · by_cases ha : mark = a
    · simp only [List.cons_append, List.nil_append, Text.dropHead_cons, if_pos ha] at *
      exact dropHead_eq_self hhead (by omega)
    · simp only [List.cons_append, List.nil_append, Text.dropHead_cons, if_neg ha,
        List.length_cons] at *
      omega
  · by_cases ha : mark = a
    · by_cases hb : mark = b
      · simp only [List.cons_append, List.nil_append, Text.dropHead_cons, if_pos ha, if_pos hb]
      · simp only [List.cons_append, List.nil_append, Text.dropHead_cons, if_pos ha, if_neg hb,
          List.length_cons] at *
        omega
    · simp only [List.cons_append, List.nil_append, Text.dropHead_cons, if_neg ha,
        List.length_cons] at *
      omega
  · simp only [List.length_cons] at hfirst
    omega

/-- The tokens that a document is put together from are those that it is read as. -/
theorem unmarked_of_spells {source other : String} {marks ds : List Char} {us : List Token}
    (hsource : source.toList = marks ++ unmarked source) (hds : Spells us ds)
    (hhead : ds.head? = (unmarked source).head?)
    (hother : other.toList = marks ++ us.flatMap Token.source) :
    unmarked other = us.flatMap Token.source ∧
      Markup.tokens (unmarked other) = ⟨us, none⟩ := by
  have hmarks : Text.dropHead [byteOrderMark] (Text.dropHead [byteOrderMark]
      (marks ++ unmarked source)) = unmarked source := by
    rw [← hsource]
    rfl
  have hunmarked : unmarked other = ds := by
    rw [unmarked, hother, ← hds.eq_flatMap]
    exact dropHead_dropHead_append hmarks hhead
  rw [hunmarked]
  exact ⟨hds.eq_flatMap, Markup.tokens_of_spells hds⟩

end Document

end LayoutCompose
