import LayoutCompose.Document.Reading
import LayoutCompose.Proofs.AttributeText
import LayoutCompose.Proofs.Outcome

/-!
Collecting the attributes of a tag.

The attributes are taken in the order in which they are written, and whether one is accepted
depends on those before it. The steps are given here as a relation, and two of them are shown to
commute: the attributes of a tag are accepted in any order or in none, and every name has the
same value in the end.
-/

namespace LayoutCompose

namespace Document

open Markup (RawAttribute)

/-- What accepting one written attribute does to the attributes before it. -/
inductive Collects (strict : Bool) (kind : Kind) (attrs : Attributes) :
    List Char × List Char → Attributes → Prop
  /-- The attribute is not for us. -/
  | foreign {key raw : List Char} : bareName? key = none →
      Collects strict kind attrs (key, raw) attrs
  /-- The kind does not understand the attribute, which is left out. -/
  | strange {key raw bare : List Char} : bareName? key = some bare →
      attrs.contains (String.ofList bare) = false →
      kind.entry? (String.ofList bare) = none → strict = false →
      Collects strict kind attrs (key, raw) attrs
  | known {key raw bare value : List Char} : bareName? key = some bare →
      attrs.contains (String.ofList bare) = false →
      kind.entry? (String.ofList bare) ≠ none → Markup.decode raw = .ok value →
      Collects strict kind attrs (key, raw)
        (attrs.push (String.ofList bare) (String.ofList value))

def CollectsAll (strict : Bool) (kind : Kind) :
    Attributes → List (List Char × List Char) → Attributes → Prop
  | attrs, [], t => t = attrs
  | attrs, a :: as, t => ∃ u, Collects strict kind attrs a u ∧ CollectsAll strict kind u as t

variable {strict : Bool} {kind : Kind} {attrs others t u : Attributes}

theorem collect_eq_ok_iff {raw : RawAttribute} :
    (collect strict kind attrs raw).result = .ok t ↔
      Collects strict kind attrs raw.written t := by
  constructor
  · intro h
    unfold collect at h
    cases hbare : bareName? raw.key with
    | none =>
        obtain rfl : attrs = t := by simpa [hbare] using h
        exact .foreign hbare
    | some bare =>
        simp only [hbare] at h
        split at h
        · simp at h
        · rename_i hnew
          rw [Bool.not_eq_true] at hnew
          split at h
          · rename_i hentry
            rw [Option.isNone_iff_eq_none] at hentry
            cases strict with
            | true => simp at h
            | false =>
                obtain rfl : attrs = t := by simpa [Except.bind] using h
                exact .strange hbare hnew hentry rfl
          · rename_i hentry
            rw [Option.isNone_iff_eq_none] at hentry
            cases hvalue : Markup.decode raw.value with
            | error fault => simp [hvalue] at h
            | ok value =>
                obtain rfl : attrs.push _ (String.ofList value) = t := by simpa [hvalue] using h
                exact .known hbare hnew hentry hvalue
  · intro h
    obtain ⟨position, key, value⟩ := raw
    cases h with
    | foreign hbare => simp [collect, hbare]
    | strange hbare hnew hentry hstrict =>
        simp [collect, hbare, hnew, hentry, hstrict, Except.bind]
    | known hbare hnew hentry hvalue => simp [collect, hbare, hnew, hentry, hvalue]

theorem collectAll_eq_ok_iff {raws : List RawAttribute} :
    (collectAll strict kind attrs raws).result = .ok t ↔
      CollectsAll strict kind attrs (raws.map RawAttribute.written) t := by
  induction raws generalizing attrs with
  | nil => simp [collectAll, CollectsAll, eq_comm]
  | cons raw raws ih => simp [collectAll, CollectsAll, collect_eq_ok_iff, ih]

theorem Collects.tag_eq {a : List Char × List Char} (h : Collects strict kind attrs a t) :
    t.tag = attrs.tag := by
  cases h <;> rfl

/-! ### Attributes with the same values -/

namespace Attributes

/-- The same tag, and the same value for every name. -/
structure Alike (attrs others : Attributes) : Prop where
  tag : attrs.tag = others.tag
  lookup : ∀ name, attrs.entries.lookup name = others.entries.lookup name

theorem Alike.refl (attrs : Attributes) : attrs.Alike attrs :=
  ⟨rfl, fun _ => rfl⟩

theorem Alike.trans (h : attrs.Alike others) (h' : others.Alike t) : attrs.Alike t :=
  ⟨h.tag.trans h'.tag, fun name => (h.lookup name).trans (h'.lookup name)⟩

theorem contains_eq_isSome_lookup (attrs : Attributes) (name : String) :
    attrs.contains name = (attrs.entries.lookup name).isSome := by
  rw [contains]
  induction attrs.entries with
  | nil => rfl
  | cons e es ih =>
      obtain ⟨other, value⟩ := e
      rw [List.any_cons, List.lookup_cons, ih]
      by_cases h : other = name
      · simp [h]
      · simp [h, beq_eq_false_iff_ne.mpr (Ne.symm h)]

theorem Alike.contains (h : attrs.Alike others) (name : String) :
    attrs.contains name = others.contains name := by
  rw [contains_eq_isSome_lookup, contains_eq_isSome_lookup, h.lookup]

@[simp] theorem contains_push {name other value : String} :
    (attrs.push name value).contains other = (attrs.contains other || name == other) := by
  simp [contains, push]

@[simp] theorem lookup_push {name other value : String} :
    (attrs.push name value).entries.lookup other =
      (attrs.entries.lookup other).or (if other = name then some value else none) := by
  rw [push, List.lookup_append, List.lookup_cons, List.lookup_nil]
  by_cases h : other = name
  · simp [h]
  · rw [if_neg h, beq_eq_false_iff_ne.mpr h]

theorem Alike.push (h : attrs.Alike others) (name value : String) :
    (attrs.push name value).Alike (others.push name value) :=
  ⟨h.tag, fun other => by rw [lookup_push, lookup_push, h.lookup]⟩

/-- Two attributes of different names may be added in either order. -/
theorem alike_push_push {name name' value value' : String} (h : name ≠ name') :
    ((attrs.push name value).push name' value').Alike
      ((attrs.push name' value').push name value) := by
  refine ⟨rfl, fun other => ?_⟩
  simp only [lookup_push, Option.or_assoc]
  by_cases hname : other = name
  · simp [hname, h]
  · simp [hname]

end Attributes

/-! ### The order of attributes -/

theorem Collects.of_alike {a : List Char × List Char} (h : Collects strict kind attrs a t)
    (hlike : attrs.Alike others) : ∃ u, Collects strict kind others a u ∧ t.Alike u := by
  cases h with
  | foreign hbare => exact ⟨others, .foreign hbare, hlike⟩
  | strange hbare hnew hentry hstrict =>
      rw [hlike.contains] at hnew
      exact ⟨others, .strange hbare hnew hentry hstrict, hlike⟩
  | known hbare hnew hentry hvalue =>
      rw [hlike.contains] at hnew
      exact ⟨_, .known hbare hnew hentry hvalue, hlike.push _ _⟩

theorem CollectsAll.of_alike {as : List (List Char × List Char)}
    (h : CollectsAll strict kind attrs as t) (hlike : attrs.Alike others) :
    ∃ u, CollectsAll strict kind others as u ∧ t.Alike u := by
  induction as generalizing attrs others with
  | nil =>
      obtain rfl : t = attrs := h
      exact ⟨others, rfl, hlike⟩
  | cons a as ih =>
      obtain ⟨s, hfirst, hrest⟩ := h
      obtain ⟨s', hfirst', hlike'⟩ := hfirst.of_alike hlike
      obtain ⟨u, hrest', hu⟩ := ih hrest hlike'
      exact ⟨u, ⟨s', hfirst', hrest'⟩, hu⟩

/-- Two attributes that are accepted one after the other are accepted the other way round. -/
theorem Collects.swap {a b : List Char × List Char} (ha : Collects strict kind attrs a t)
    (hb : Collects strict kind t b u) :
    ∃ t' u', Collects strict kind attrs b t' ∧ Collects strict kind t' a u' ∧ u.Alike u' := by
  cases ha with
  | foreign hbare => exact ⟨u, u, hb, .foreign hbare, .refl u⟩
  | @strange key raw bare hbare hnew hentry hstrict =>
      cases hb with
      | foreign hbare' =>
          exact ⟨attrs, attrs, .foreign hbare', .strange hbare hnew hentry hstrict, .refl attrs⟩
      | strange hbare' hnew' hentry' hstrict' =>
          exact ⟨attrs, attrs, .strange hbare' hnew' hentry' hstrict',
            .strange hbare hnew hentry hstrict, .refl attrs⟩
      | @known key' raw' bare' value' hbare' hnew' hentry' hvalue' =>
          have hne : String.ofList bare' ≠ String.ofList bare := by
            intro h
            rw [h] at hentry'
            exact hentry' hentry
          refine ⟨_, _, .known hbare' hnew' hentry' hvalue', .strange hbare ?_ hentry hstrict,
            .refl _⟩
          rw [Attributes.contains_push, hnew, Bool.false_or, beq_eq_false_iff_ne]
          exact hne
  | @known key raw bare value hbare hnew hentry hvalue =>
      cases hb with
      | foreign hbare' =>
          exact ⟨_, _, .foreign hbare', .known hbare hnew hentry hvalue, .refl _⟩
      | strange hbare' hnew' hentry' hstrict' =>
          rw [Attributes.contains_push, Bool.or_eq_false_iff] at hnew'
          exact ⟨_, _, .strange hbare' hnew'.1 hentry' hstrict',
            .known hbare hnew hentry hvalue, .refl _⟩
      | @known key' raw' bare' value' hbare' hnew' hentry' hvalue' =>
          rw [Attributes.contains_push, Bool.or_eq_false_iff, beq_eq_false_iff_ne] at hnew'
          refine ⟨_, _, .known hbare' hnew'.1 hentry' hvalue',
            .known hbare ?_ hentry hvalue, Attributes.alike_push_push hnew'.2⟩
          rw [Attributes.contains_push, hnew, Bool.false_or, beq_eq_false_iff_ne]
          exact hnew'.2.symm

theorem CollectsAll.of_perm {as bs : List (List Char × List Char)} (hperm : as.Perm bs)
    (h : CollectsAll strict kind attrs as t) :
    ∃ u, CollectsAll strict kind attrs bs u ∧ t.Alike u := by
  -- After a swap the attributes are only alike, so what follows has to start from those.
  induction hperm generalizing attrs t with
  | nil => exact ⟨t, h, .refl t⟩
  | cons a _ ih =>
      obtain ⟨s, hfirst, hrest⟩ := h
      obtain ⟨u, hrest', hu⟩ := ih hrest
      exact ⟨u, ⟨s, hfirst, hrest'⟩, hu⟩
  | swap a b as =>
      obtain ⟨s, hb, r, ha, hrest⟩ := h
      obtain ⟨s', r', ha', hb', hlike⟩ := hb.swap ha
      obtain ⟨u, hrest', hu⟩ := hrest.of_alike hlike
      exact ⟨u, ⟨s', ha', r', hb', hrest'⟩, hu⟩
  | trans _ _ ih ih' =>
      obtain ⟨s, hs, hlike⟩ := ih h
      obtain ⟨u, hu, hlike'⟩ := ih' hs
      exact ⟨u, hu, hlike.trans hlike'⟩

end Document

end LayoutCompose
