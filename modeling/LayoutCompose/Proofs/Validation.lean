import LayoutCompose.Proofs.Collection
import LayoutCompose.Proofs.Readings

/-!
The vocabulary of a kind is what its views are checked against.

The vocabulary and the readings of a kind are two lists of the same attributes. They are compared
here, name by name and grammar by grammar. So a view is made exactly if every attribute that
counts has a value of its grammar, nothing that has to be given is missing, and no other
attribute has a part in it.
-/

namespace LayoutCompose

/-! ### What the vocabulary asks for -/

/-- The grammar of the values of an attribute. The form leaves it open for a few, whose values
are narrower. -/
def Attribute.grammar (a : Attribute) : Grammar :=
  match a.form with
  | .dimension => .dimension
  | .extent => .extent
  | .color => .color
  | .drawable => .drawable
  | .text => if a.name = "fontFamily" then .font else .caption
  | .number => if a.name ∈ ["layout_weight", "stepSize"] then .nonNegative else .number
  | .integer => .count
  | .boolean => .boolean
  | .id => .id
  | .gravity => .gravity
  | .range => .span
  | .reference kind => if kind = "layout" then .layout else .image
  | .choice _ =>
    if a.name = "visibility" then .visibility
    else if a.name = "orientation" then .orientation
    else .scaling
  | .flags => if a.name = "inputType" then .inputType else .textStyle
  | .target => .target

/-- Two names for one thing, the preferred one first. -/
def Vocabulary.preferences : List (String × String) :=
  [("src", "srcCompat"), ("valueFrom", "min"), ("valueTo", "max"), ("value", "progress"),
    ("paddingStart", "paddingLeft"), ("paddingEnd", "paddingRight"),
    ("layout_marginStart", "layout_marginLeft"), ("layout_marginEnd", "layout_marginRight")]

namespace Kind

def grammar? (kind : Kind) (name : String) : Option Grammar :=
  (kind.entry? name).map Attribute.grammar

/-- What the vocabulary of a kind expects in place of a value that it does not accept. -/
def refusal? (kind : Kind) (name raw : String) : Option Expectation :=
  (kind.grammar? name).bind fun g => g.refusal? raw

def required : Kind → List String
  | image => ["src", "srcCompat"]
  | inclusion => ["layout"]
  | _ => []

def names (kind : Kind) : List String :=
  kind.ownAttributes.map Attribute.name ++
    if kind.hasCommon then
      Vocabulary.common.map Attribute.name ++ Constraint.attributes.map Prod.fst
    else []

theorem mem_names_of_entry? {kind : Kind} {name : String} (h : (kind.entry? name).isSome) :
    name ∈ kind.names := by
  have hfind {as : List Attribute} {a : Attribute}
      (ha : as.find? (fun a => a.name == name) = some a) : name ∈ as.map Attribute.name := by
    have hname := List.find?_some ha
    exact List.mem_map.mpr ⟨a, List.mem_of_find?_eq_some ha, beq_iff_eq.mp hname⟩
  rw [names, List.mem_append]
  unfold entry? at h
  split at h
  case h_1 a hown => exact .inl (hfind hown)
  case h_2 hown =>
    cases hcommon : kind.hasCommon with
    | false =>
        rw [hcommon, Bool.not_false, if_pos rfl] at h
        cases h
    | true =>
        rw [hcommon, Bool.not_true, if_neg Bool.false_ne_true] at h
        rw [if_pos rfl, List.mem_append]
        split at h
        case h_1 a hmem => exact .inr (.inl (hfind hmem))
        case h_2 hmem =>
          split at h
          · rename_i hany
            obtain ⟨row, hrow, heq⟩ := List.any_eq_true.mp hany
            exact .inr (.inr (List.mem_map.mpr ⟨row, hrow, beq_iff_eq.mp heq⟩))
          · cases h

theorem mem_all (kind : Kind) : kind ∈ all := by
  cases kind <;> decide

end Kind

namespace Document

namespace Attributes

/-- Whether an attribute is given under its preferred name too. -/
def isShadowed (attrs : Attributes) (name : String) : Bool :=
  Vocabulary.preferences.any fun (first, second) => second == name && attrs.contains first

/-- An attribute that is given, is in the vocabulary of a kind and is not shadowed. -/
structure Counts (attrs : Attributes) (kind : Kind) (name raw : String) : Prop where
  given : (name, raw) ∈ attrs.entries
  known : (kind.entry? name).isSome
  unshadowed : attrs.isShadowed name = false

theorem lookup_eq_some_iff {entries : List (String × String)} {name raw : String}
    (hnames : (entries.map Prod.fst).Nodup) :
    entries.lookup name = some raw ↔ (name, raw) ∈ entries := by
  induction entries with
  | nil => simp
  | cons e es ih =>
      obtain ⟨other, value⟩ := e
      rw [List.map_cons, List.nodup_cons] at hnames
      rw [List.lookup_cons, List.mem_cons, Prod.mk.injEq]
      by_cases h : name = other
      · subst h
        have hmem : (name, raw) ∉ es := fun hmem =>
          hnames.1 (List.mem_map.mpr ⟨_, hmem, rfl⟩)
        simp [hmem, eq_comm]
      · simp [h, beq_eq_false_iff_ne.mpr h, ih hnames.2]

def HasRequired (attrs : Attributes) (kind : Kind) : Prop :=
  kind.required ≠ [] → ∃ name ∈ kind.required, attrs.contains name = true

end Attributes

/-! ### The readings against the vocabulary -/

namespace Reading

/-- A reading goes by the vocabulary: its names have its grammar, and the second is the one that
the first is preferred to. -/
def agrees (r : Reading) (kind : Kind) : Bool :=
  r.names.all (fun name => kind.grammar? name == some r.grammar) &&
    Vocabulary.preferences.all (fun (first, second) =>
      second != r.name && (r.second != some second || first == r.name)) &&
    r.second.all fun name => Vocabulary.preferences.contains (r.name, name)

theorem agrees_iff {r : Reading} {kind : Kind} : r.agrees kind = true ↔
    (∀ name ∈ r.names, kind.grammar? name = some r.grammar) ∧
      (∀ p ∈ Vocabulary.preferences, p.2 ≠ r.name ∧ (r.second = some p.2 → p.1 = r.name)) ∧
      ∀ name, r.second = some name → (r.name, name) ∈ Vocabulary.preferences := by
  simp only [agrees, Bool.and_eq_true, List.all_eq_true, beq_iff_eq, Bool.or_eq_true, bne_iff_ne,
    Option.all_eq_true, List.contains_iff_mem, and_assoc, ← imp_iff_not_or, ne_eq]

theorem agrees_of_mem {r : Reading} {kind : Kind} (h : r ∈ ofKind kind) : r.agrees kind = true := by
  have htable : (Kind.all.all fun kind => (ofKind kind).all (·.agrees kind)) = true := by
    decide +kernel
  exact List.all_eq_true.mp (List.all_eq_true.mp htable kind kind.mem_all) r h

/-- Every name in the vocabulary is asked for. -/
theorem exists_mem_names {kind : Kind} {name : String} (h : (kind.entry? name).isSome) :
    ∃ r ∈ ofKind kind, name ∈ r.names := by
  have htable : (Kind.all.all fun kind =>
      kind.names.all fun n => (ofKind kind).any fun r => r.names.contains n) = true := by
    decide +kernel
  have hkind := List.all_eq_true.mp htable kind kind.mem_all
  have hname := List.all_eq_true.mp hkind name (Kind.mem_names_of_entry? h)
  obtain ⟨r, hr, hcontains⟩ := List.any_eq_true.mp hname
  exact ⟨r, hr, List.contains_iff_mem.mp hcontains⟩

theorem required_table (kind : Kind) :
    ((ofKind kind).filter (·.required)).map names = [kind.required].filter (· ≠ []) := by
  have htable : (Kind.all.all fun kind =>
      ((ofKind kind).filter (·.required)).map names == [kind.required].filter (· ≠ [])) = true := by
    decide +kernel
  exact beq_iff_eq.mp (List.all_eq_true.mp htable kind kind.mem_all)

variable {r : Reading} {kind : Kind} {attrs : Attributes} {name raw : String}

theorem seen_eq_none_iff :
    r.seen attrs = none ↔ ∀ name ∈ r.names, attrs.contains name = false := by
  simp only [Attributes.contains_eq_isSome_lookup, Option.isSome_eq_false_iff,
    Option.isNone_iff_eq_none, names, List.forall_mem_cons, Option.mem_toList]
  rw [seen]
  cases attrs.entries.lookup r.name with
  | some raw => simp
  | none => cases r.second <;> simp

/-- The first name of a reading is never shadowed. -/
theorem isShadowed_name (h : r.agrees kind = true) : attrs.isShadowed r.name = false := by
  refine List.any_eq_false.mpr fun p hp hshadow => ?_
  rw [Bool.and_eq_true, beq_iff_eq] at hshadow
  exact ((agrees_iff.mp h).2.1 p hp).1 hshadow.1

/-- The second name of a reading is shadowed by the first. -/
theorem isShadowed_second (h : r.agrees kind = true) (hname : r.second = some name) :
    attrs.isShadowed name = attrs.contains r.name := by
  obtain ⟨-, hfirst, hsecond⟩ := agrees_iff.mp h
  rw [Bool.eq_iff_iff, Attributes.isShadowed, List.any_eq_true]
  constructor
  · rintro ⟨p, hp, hshadow⟩
    rw [Bool.and_eq_true, beq_iff_eq] at hshadow
    rw [← (hfirst p hp).2 (hname.trans (congrArg some hshadow.1.symm))]
    exact hshadow.2
  · intro hcontains
    refine ⟨(r.name, name), hsecond name hname, ?_⟩
    rw [Bool.and_eq_true, beq_iff_eq]
    exact ⟨rfl, hcontains⟩

theorem known_of_mem_names (h : r.agrees kind = true) (hname : name ∈ r.names) :
    (kind.entry? name).isSome := by
  have hgrammar := (agrees_iff.mp h).1 name hname
  rw [Kind.grammar?, Option.map_eq_some_iff] at hgrammar
  obtain ⟨entry, hentry, -⟩ := hgrammar
  exact Option.isSome_of_eq_some hentry

theorem refusal?_of_mem_names (h : r.agrees kind = true) (hname : name ∈ r.names) :
    kind.refusal? name raw = r.grammar.refusal? raw := by
  rw [Kind.refusal?, (agrees_iff.mp h).1 name hname, Option.bind_some]

/-- What a reading sees is the one of its names that counts. -/
theorem seen_eq_some_iff (h : r.agrees kind = true)
    (hnames : (attrs.entries.map Prod.fst).Nodup) :
    r.seen attrs = some (name, raw) ↔ name ∈ r.names ∧ attrs.Counts kind name raw := by
  constructor
  · intro hseen
    rw [seen] at hseen
    cases hfirst : attrs.entries.lookup r.name with
    | some value =>
        rw [hfirst] at hseen
        obtain ⟨rfl, rfl⟩ := Prod.mk.inj (Option.some.inj hseen)
        have hmem : r.name ∈ r.names := List.mem_cons_self
        exact ⟨hmem, (Attributes.lookup_eq_some_iff hnames).mp hfirst, known_of_mem_names h hmem,
          isShadowed_name h⟩
    | none =>
        rw [hfirst] at hseen
        obtain ⟨other, hother, hseen⟩ := Option.bind_eq_some_iff.mp hseen
        obtain ⟨value, hvalue, heq⟩ := Option.map_eq_some_iff.mp hseen
        obtain ⟨rfl, rfl⟩ := Prod.mk.inj heq
        have hmem : other ∈ r.names := List.mem_cons_of_mem _ (Option.mem_toList.mpr hother)
        refine ⟨hmem, (Attributes.lookup_eq_some_iff hnames).mp hvalue,
          known_of_mem_names h hmem, ?_⟩
        rw [isShadowed_second h hother, Attributes.contains_eq_isSome_lookup, hfirst]
        rfl
  · rintro ⟨hname, hcounts⟩
    have hlookup := (Attributes.lookup_eq_some_iff hnames).mpr hcounts.given
    rw [seen]
    rcases List.mem_cons.mp hname with rfl | hsecond
    · rw [hlookup]
    · have hsecond := Option.mem_toList.mp hsecond
      have hshadow := hcounts.unshadowed
      rw [isShadowed_second h hsecond, Attributes.contains_eq_isSome_lookup,
        Option.isSome_eq_false_iff, Option.isNone_iff_eq_none] at hshadow
      rw [hshadow, hsecond, Option.bind_some, hlookup, Option.map_some]

theorem failure?_eq_some {e : Cause} (h : r.agrees kind = true)
    (hnames : (attrs.entries.map Prod.fst).Nodup) (hfailure : r.failure? attrs = some e) :
    (∃ name ∈ r.names, ∃ raw expected, attrs.Counts kind name raw ∧
        kind.refusal? name raw = some expected ∧ e = .invalidValue attrs.tag name raw expected) ∨
      r.required = true ∧ (∀ name ∈ r.names, attrs.contains name = false) ∧
        e = .missingAttribute attrs.tag r.name := by
  rw [failure?] at hfailure
  cases hseen : r.seen attrs with
  | some p =>
      obtain ⟨name, raw⟩ := p
      rw [hseen] at hfailure
      obtain ⟨expected, hrefusal, rfl⟩ := Option.map_eq_some_iff.mp hfailure
      obtain ⟨hname, hcounts⟩ := (seen_eq_some_iff h hnames).mp hseen
      exact .inl ⟨name, hname, raw, expected, hcounts,
        (refusal?_of_mem_names h hname).trans hrefusal, rfl⟩
  | none =>
      rw [hseen] at hfailure
      cases hrequired : r.required with
      | false =>
          rw [hrequired] at hfailure
          cases hfailure
      | true =>
          rw [hrequired] at hfailure
          exact .inr ⟨rfl, seen_eq_none_iff.mp hseen, (Option.some.inj hfailure).symm⟩

theorem failure?_eq_none_iff (h : r.agrees kind = true)
    (hnames : (attrs.entries.map Prod.fst).Nodup) : r.failure? attrs = none ↔
      (∀ name ∈ r.names, ∀ raw, attrs.Counts kind name raw → kind.refusal? name raw = none) ∧
        (r.required = true → ∃ name ∈ r.names, attrs.contains name = true) := by
  constructor
  · intro hfailure
    rw [failure?] at hfailure
    constructor
    · intro name hname raw hcounts
      rw [(seen_eq_some_iff h hnames).mpr ⟨hname, hcounts⟩] at hfailure
      rw [refusal?_of_mem_names h hname]
      exact Option.map_eq_none_iff.mp hfailure
    · intro hrequired
      by_contra! hcontains
      have hseen := seen_eq_none_iff.mpr fun name hname =>
        eq_false_of_ne_true (hcontains name hname)
      rw [hseen, hrequired] at hfailure
      cases hfailure
  · rintro ⟨haccepted, hgiven⟩
    refine Option.eq_none_iff_forall_ne_some.mpr fun e hfailure => ?_
    rcases failure?_eq_some h hnames hfailure with
      ⟨name, hname, raw, expected, hcounts, hrefusal, -⟩ | ⟨hrequired, habsent, -⟩
    · rw [haccepted name hname raw hcounts] at hrefusal
      cases hrefusal
    · obtain ⟨name, hname, hcontains⟩ := hgiven hrequired
      rw [habsent name hname] at hcontains
      cases hcontains

theorem required_eq_names (hr : r ∈ ofKind kind) (hrequired : r.required = true) :
    kind.required = r.names := by
  have hmem : r.names ∈ ((ofKind kind).filter (·.required)).map names :=
    List.mem_map.mpr ⟨r, List.mem_filter.mpr ⟨hr, hrequired⟩, rfl⟩
  rw [required_table] at hmem
  exact (List.mem_singleton.mp (List.mem_filter.mp hmem).1).symm

theorem exists_required (h : kind.required ≠ []) :
    ∃ r ∈ ofKind kind, r.required = true ∧ r.names = kind.required := by
  have hmem : kind.required ∈ ((ofKind kind).filter (·.required)).map names := by
    rw [required_table]
    exact List.mem_filter.mpr ⟨List.mem_singleton_self _, decide_eq_true h⟩
  obtain ⟨r, hr, hnames⟩ := List.mem_map.mp hmem
  obtain ⟨hr, hrequired⟩ := List.mem_filter.mp hr
  exact ⟨r, hr, hrequired, hnames⟩

end Reading

/-! ### Views -/

namespace Attributes

open Outcome (Succeeds)

variable {kind : Kind} {attrs others : Attributes}

theorem hasRequired_iff : attrs.HasRequired kind ↔ ∀ r ∈ Reading.ofKind kind,
    r.required = true → ∃ name ∈ r.names, attrs.contains name = true := by
  constructor
  · intro h r hr hrequired
    rw [HasRequired, Reading.required_eq_names hr hrequired] at h
    exact h (List.cons_ne_nil _ _)
  · intro h hne
    obtain ⟨r, hr, hrequired, hnames⟩ := Reading.exists_required hne
    rw [← hnames]
    exact h r hr hrequired

theorem succeeds_view_iff (hnames : (attrs.entries.map Prod.fst).Nodup) :
    Succeeds (attrs.view kind) ↔
      (∀ name raw, attrs.Counts kind name raw → kind.refusal? name raw = none) ∧
        attrs.HasRequired kind := by
  rw [Outcome.succeeds_iff_failure?, (reads_view kind).failure, List.findSome?_eq_none_iff,
    hasRequired_iff]
  constructor
  · intro h
    have hreading (r : Reading) (hr : r ∈ Reading.ofKind kind) :=
      (Reading.failure?_eq_none_iff (Reading.agrees_of_mem hr) hnames).mp (h r hr)
    refine ⟨fun name raw hcounts => ?_, fun r hr => (hreading r hr).2⟩
    obtain ⟨r, hr, hname⟩ := Reading.exists_mem_names hcounts.known
    exact (hreading r hr).1 name hname raw hcounts
  · rintro ⟨haccepted, hgiven⟩ r hr
    refine (Reading.failure?_eq_none_iff (Reading.agrees_of_mem hr) hnames).mpr ⟨?_, hgiven r hr⟩
    intro name _ raw hcounts
    exact haccepted name raw hcounts

theorem view_eq_error {e : Cause} (hnames : (attrs.entries.map Prod.fst).Nodup)
    (h : attrs.view kind = .error e) :
    (∃ name raw expected, attrs.Counts kind name raw ∧
        kind.refusal? name raw = some expected ∧ e = .invalidValue attrs.tag name raw expected) ∨
      ∃ name rest, kind.required = name :: rest ∧ ¬ attrs.HasRequired kind ∧
        e = .missingAttribute attrs.tag name := by
  have hfind := (reads_view kind).failure attrs
  rw [h] at hfind
  obtain ⟨r, hr, hfailure⟩ := List.exists_of_findSome?_eq_some hfind.symm
  rcases Reading.failure?_eq_some (Reading.agrees_of_mem hr) hnames hfailure with
    ⟨name, -, raw, expected, hrefused⟩ | ⟨hrequired, habsent, rfl⟩
  · exact .inl ⟨name, raw, expected, hrefused⟩
  · refine .inr ⟨r.name, r.second.toList, Reading.required_eq_names hr hrequired, ?_, rfl⟩
    intro hgiven
    obtain ⟨name, hname, hcontains⟩ := hasRequired_iff.mp hgiven r hr hrequired
    rw [habsent name hname] at hcontains
    cases hcontains

theorem view_congr (htag : others.tag = attrs.tag)
    (hothers : (others.entries.map Prod.fst).Nodup) (hnames : (attrs.entries.map Prod.fst).Nodup)
    (h : ∀ name raw, others.Counts kind name raw ↔ attrs.Counts kind name raw) :
    others.view kind = attrs.view kind := by
  refine (reads_view kind).congr others attrs htag fun r hr => Option.ext fun p => ?_
  rw [Reading.seen_eq_some_iff (Reading.agrees_of_mem hr) hothers,
    Reading.seen_eq_some_iff (Reading.agrees_of_mem hr) hnames, h]

/-- A view is checked against the vocabulary of its kind: it is made exactly if all attributes
that count have values of their grammars and the one that has to be given is there; a failure is
about one of these; and what does not count has no part in the view. -/
theorem view_checks_vocabulary (kind : Kind) (attrs : Attributes)
    (hnames : (attrs.entries.map Prod.fst).Nodup) :
    (Succeeds (attrs.view kind) ↔
      (∀ name raw, attrs.Counts kind name raw → kind.refusal? name raw = none) ∧
        attrs.HasRequired kind) ∧
    (∀ e, attrs.view kind = .error e →
      (∃ name raw expected, attrs.Counts kind name raw ∧
        kind.refusal? name raw = some expected ∧ e = .invalidValue attrs.tag name raw expected) ∨
      ∃ name rest, kind.required = name :: rest ∧ ¬ attrs.HasRequired kind ∧
        e = .missingAttribute attrs.tag name) ∧
    ∀ others : Attributes, others.tag = attrs.tag → (others.entries.map Prod.fst).Nodup →
      (∀ name raw, others.Counts kind name raw ↔ attrs.Counts kind name raw) →
      others.view kind = attrs.view kind :=
  ⟨succeeds_view_iff hnames, fun _ he => view_eq_error hnames he,
    fun _ htag hothers hcounts => view_congr htag hothers hnames hcounts⟩

/-- A slider with a bad value under a shadowed name and one under an unknown name. -/
theorem view_checks_vocabulary_slider :
    let attrs : Attributes := ⟨"SeekBar", [("min", "low"), ("tint", "red"), ("valueFrom", "-1")]⟩
    (attrs.entries.map Prod.fst).Nodup ∧ Succeeds (attrs.view .slider) := by
  intro attrs
  have hnames : (attrs.entries.map Prod.fst).Nodup := by decide
  refine ⟨hnames, (view_checks_vocabulary .slider attrs hnames).1.mpr ⟨?_, ?_⟩⟩
  · rintro name raw ⟨hgiven, hknown, hunshadowed⟩
    rcases List.mem_cons.mp hgiven with h | hgiven
    · obtain ⟨rfl, rfl⟩ := Prod.mk.inj h
      exact absurd hunshadowed (by decide +kernel)
    rcases List.mem_cons.mp hgiven with h | hgiven
    · obtain ⟨rfl, rfl⟩ := Prod.mk.inj h
      exact absurd hknown (by decide +kernel)
    obtain ⟨rfl, rfl⟩ := Prod.mk.inj (List.mem_singleton.mp hgiven)
    decide +kernel
  · intro h
    exact absurd rfl h

end Attributes

end Document

end LayoutCompose
