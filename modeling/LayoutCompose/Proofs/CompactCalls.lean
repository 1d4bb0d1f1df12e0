import LayoutCompose.Proofs.Essence
import LayoutCompose.Proofs.Names
import LayoutCompose.Proofs.NumeralText
import LayoutCompose.Proofs.Places
import LayoutCompose.Proofs.ReadValues
import LayoutCompose.Proofs.TokenSource

/-!
Compact forms of insets and sizes.

Sides of the same length share an argument, and axes of the same extent share a call. Lengths are
compared by their numbers, so two zeros of different sign are the same length; lengths that are the
same are written alike, and so a compact call can be expanded again into the sides and axes that it
is for, each with its own length.
-/

namespace LayoutCompose

/-! ### Equal lengths -/

/-- A finite number is that of its sign and magnitude. -/
theorem Single.ofRatio_magnitude {x : Single} (hx : x.isFinite = true) :
    ofRatio x.negative x.magnitude 1 = x := by
  have hcontains := Shortest.Interval.contains_magnitude x Nat.one_pos
  rw [Nat.mul_one] at hcontains
  exact Shortest.Interval.ofRatio_eq hx Nat.one_pos hcontains x.negative

namespace Kotlin

theorem numeral_of_magnitude {x : Single} (hx : x.isFinite = true) (hzero : x.magnitude = 0) :
    numeral x = "0" := by
  have hint : x.toInt = 0 := by simp [Single.toInt, Single.units, hzero]
  have hwhole : x.isWhole = true := by simp [Single.isWhole, hx, hzero]
  rw [numeral, hwhole, hzero, hint]
  rfl

/-- Numbers of the same value are written alike. -/
theorem numeral_of_eq {x y : Single} (hx : x.isFinite = true) (hy : y.isFinite = true)
    (h : x.eq y = true) : numeral x = numeral y := by
  obtain ⟨-, -, hunits⟩ := Single.eq_iff.mp h
  unfold Single.units at hunits
  have hmagnitude : x.magnitude = y.magnitude := by split at hunits <;> split at hunits <;> omega
  by_cases hzero : x.magnitude = 0
  · rw [numeral_of_magnitude hx hzero, numeral_of_magnitude hy (hmagnitude ▸ hzero)]
  · have hsign : x.negative = y.negative := by
      cases hneg : x.negative <;> cases hneg' : y.negative <;> simp [hneg, hneg'] at hunits ⊢ <;>
        omega
    rw [← Single.ofRatio_magnitude hx, ← Single.ofRatio_magnitude hy, hmagnitude, hsign]

end Kotlin

namespace Dimension

/-- Lengths that are equal up to the sign of zero are written alike. -/
theorem dpExpression_of_eq {d e : Dimension} (hd : d.Proper) (he : e.Proper) (h : d.eq e = true) :
    d.dpExpression = e.dpExpression := by
  have hnumeral : ∀ x y : Single, x.isFinite = true → y.isFinite = true → x.eq y = true →
      Kotlin.numeral x = Kotlin.numeral y := fun _ _ => Kotlin.numeral_of_eq
  cases d <;> cases e <;> simp only [Dimension.eq, Bool.false_eq_true] at h
  case resource.resource => rw [eq_of_beq h]
  all_goals
    unfold dpExpression
    dsimp only [Kotlin.floatLiteral]
    rw [hnumeral _ _ hd he h]

end Dimension

namespace Compose

/-! ### Calls and their arguments -/

/-- What stands between the opening of a call and its last parenthesis. -/
def inside? (opening call : String) : Option (List Char) := do
  let rest ← Text.stripHead? opening.toList call.toList
  if rest.getLast? = some ')' then some rest.dropLast else none

def splitArguments (inside : List Char) : List (List Char) :=
  (Text.pieces ',' inside).map (Text.dropHead [' '])

/-- The name of an argument, if it has one, and its value. -/
def splitName (argument : List Char) : Option String × String :=
  match Text.stripHead? [' ', '=', ' '] (argument.dropWhile Char.isAlpha) with
  | some value => (some (String.ofList (argument.takeWhile Char.isAlpha)), String.ofList value)
  | none => (none, String.ofList argument)

@[simp] theorem inside?_call (opening inside : String) :
    inside? opening (opening ++ inside ++ ")") = some inside.toList := by
  have htext : (opening ++ inside ++ ")").toList = opening.toList ++ (inside.toList ++ [')']) := by
    simp
  rw [inside?, htext, Text.stripHead?_append]
  simp

theorem intercalate_comma (text : List Char) (texts : List (List Char)) :
    [',', ' '].intercalate (text :: texts) =
      [','].intercalate (text :: texts.map (' ' :: ·)) := by
  induction texts generalizing text with
  | nil => rfl
  | cons next texts ih =>
      rw [List.intercalate_cons_cons, ih next, List.map_cons, List.intercalate_cons_cons]
      cases texts <;> simp [List.intercalate]

/-- Arguments without a comma are found again in the text of a call. -/
theorem splitArguments_intercalate {texts : List String} (hne : texts ≠ [])
    (hcomma : ∀ t ∈ texts, ',' ∉ t.toList) (hbegins : ∀ t ∈ texts, Kotlin.Begins t) :
    splitArguments (", ".intercalate texts).toList = texts.map String.toList := by
  obtain ⟨text, texts, rfl⟩ := List.exists_cons_of_ne_nil hne
  have hpieces : Text.pieces ',' (", ".intercalate (text :: texts)).toList =
      text.toList :: (texts.map String.toList).map (' ' :: ·) := by
    rw [String.toList_intercalate]
    refine (congrArg _ (intercalate_comma ..)).trans (Text.pieces_intercalate ?_ ?_)
    · exact List.cons_ne_nil _ _
    · simpa using hcomma
  have hfirst : Text.dropHead [' '] text.toList = text.toList := by
    obtain ⟨c, hc, hspace⟩ := hbegins text List.mem_cons_self
    obtain ⟨cs, hcs⟩ := List.head?_eq_some_iff.mp hc
    rw [hcs, Text.dropHead_cons, if_neg (Ne.symm hspace)]
  rw [splitArguments, hpieces]
  simp [hfirst, Text.dropHead_cons]

theorem splitName_named {name : String} (hname : name.toList.all Char.isAlpha = true)
    (value : String) : splitName (name ++ " = " ++ value).toList = (some name, value) := by
  have htext : (name ++ " = " ++ value).toList =
      name.toList ++ ([' ', '=', ' '] ++ value.toList) := by
    simp
  have hrest : ∀ c ∈ ([' ', '=', ' '] ++ value.toList).head?, c.isAlpha = false := by simp
  obtain ⟨htake, hdrop⟩ := Text.span_append (List.all_eq_true.mp hname) hrest
  rw [splitName, htext, htake, hdrop, Text.stripHead?_append]
  simp

/-- A text that is an argument of its own, without a name. -/
structure IsArgument (value : String) : Prop where
  comma : ',' ∉ value.toList
  begins : Kotlin.Begins value
  unnamed : splitName value.toList = (none, value)

/-- A value is no argument with a name if its first letters are not followed by a space. -/
theorem isArgument_of_opening {value : String} {letters rest : List Char} {c : Char}
    (hcomma : ',' ∉ value.toList) (h : value.toList = letters ++ c :: rest)
    (hletters : letters.all Char.isAlpha = true) (hc : c.isAlpha = false) (hspace : c ≠ ' ') :
    IsArgument value := by
  have hrest : ∀ d ∈ (c :: rest).head?, d.isAlpha = false := by simpa using hc
  obtain ⟨-, hdrop⟩ := Text.span_append (List.all_eq_true.mp hletters) hrest
  refine ⟨hcomma, ?_, ?_⟩
  · cases letters with
    | nil => exact ⟨c, by rw [h]; rfl, hspace⟩
    | cons a letters =>
        refine ⟨a, by rw [h]; rfl, ?_⟩
        rintro rfl
        cases hletters
  · rw [splitName, h, hdrop, Text.stripHead?, if_neg (Ne.symm hspace), ← h, String.ofList_toList]

theorem isAlpha_of_isNumeric {c : Char} (h : Kotlin.isNumeric c = true) : c.isAlpha = false := by
  simp only [Kotlin.isNumeric, Bool.or_eq_true, beq_iff_eq] at h
  rcases h with (h | rfl) | rfl
  · have hdigits : ∀ n : Fin 58, 48 ≤ n.val → (Char.ofNat n).isAlpha = false := by decide
    obtain ⟨hlower, hupper⟩ := Char.isDigit_iff_toNat.mp h
    have hc := hdigits ⟨c.toNat, Nat.lt_succ_of_le hupper⟩ hlower
    rwa [Char.ofNat_toNat] at hc
  · rfl
  · rfl

/-- The text of a number begins with a sign or a digit, and there is no comma in it. -/
theorem exists_numeral_eq_cons {x : Single} (hx : x.isFinite = true) :
    ∃ c cs, (Kotlin.numeral x).toList = c :: cs ∧ Kotlin.isNumeric c = true ∧ ',' ∉ c :: cs := by
  obtain ⟨negative, n, k, htext, -⟩ := Kotlin.exists_numeral_eq hx
  have hne : (Numeral.ofGrid negative n k).chars ≠ [] := by
    simp [Numeral.chars, Numeral.whole_ne_nil]
  obtain ⟨c, cs, hcs⟩ := List.exists_cons_of_ne_nil hne
  have hnumeric : ∀ d ∈ c :: cs, Kotlin.isNumeric d = true := hcs ▸ Numeral.isNumeric_chars _
  rw [htext, Numeral.text, String.toList_ofList, hcs]
  exact ⟨c, cs, rfl, hnumeric c List.mem_cons_self,
    fun hmem => Bool.false_ne_true (hnumeric ',' hmem)⟩

theorem isArgument_dp {x : Single} (hx : x.isFinite = true) :
    IsArgument (Kotlin.numeral x ++ ".dp") := by
  obtain ⟨c, cs, hcs, hc, hcomma⟩ := exists_numeral_eq_cons hx
  have htext : (Kotlin.numeral x ++ ".dp").toList = [] ++ c :: (cs ++ ['.', 'd', 'p']) := by
    simp [hcs]
  refine isArgument_of_opening ?_ htext rfl (isAlpha_of_isNumeric hc) ?_
  · rw [htext, List.nil_append, ← List.cons_append, List.mem_append, not_or]
    exact ⟨hcomma, by decide⟩
  · rintro rfl
    cases hc

theorem isArgument_px {x : Single} (hx : x.isFinite = true) :
    IsArgument ("with(LocalDensity.current) \x7b " ++ Kotlin.floatLiteral x ++ ".toDp() \x7d") := by
  obtain ⟨c, cs, hcs, -, hcomma⟩ := exists_numeral_eq_cons hx
  have htext : ("with(LocalDensity.current) \x7b " ++ Kotlin.floatLiteral x ++
      ".toDp() \x7d").toList = "with".toList ++ '(' :: ("LocalDensity.current) \x7b ".toList ++
        (c :: cs ++ "f.toDp() \x7d".toList)) := by
    simp [Kotlin.floatLiteral, hcs]
  refine isArgument_of_opening ?_ htext rfl rfl (by decide)
  rw [htext]
  simp only [List.mem_append, List.mem_cons, not_or] at hcomma ⊢
  exact ⟨by decide, by decide, by decide, hcomma, by decide⟩

theorem isArgument_resource {r : Reference} (hr : r.IsOf ["dimen"]) :
    IsArgument ("dimensionResource(id = " ++ r.constant ++ ")") := by
  have hkind : r.kind = "dimen" := List.mem_singleton.mp hr.kind
  have hname : ',' ∉ r.name.toList := fun hmem =>
    Bool.false_ne_true (Kotlin.isNameChar_of_isName hr.name ',' hmem)
  have htext : ("dimensionResource(id = " ++ r.constant ++ ")").toList =
      "dimensionResource".toList ++ '(' :: ("id = ".toList ++ r.constant.toList ++ [')']) := by
    simp
  have hconstant : ',' ∉ r.constant.toList := by
    rw [Reference.constant, hkind]
    simp only [String.toList_append, List.mem_append, not_or]
    refine ⟨⟨⟨⟨?_, by decide⟩, by decide⟩, by decide⟩, hname⟩
    split <;> decide
  refine isArgument_of_opening ?_ htext rfl rfl (by decide)
  rw [htext]
  simp only [List.mem_append, List.mem_cons, not_or]
  exact ⟨by decide, by decide, ⟨by decide, hconstant⟩, by decide⟩

theorem isArgument_dpExpression {d : Dimension} (hd : d.Proper) : IsArgument d.dpExpression := by
  cases d with
  | dp x => exact isArgument_dp hd
  | sp x => exact isArgument_dp hd
  | px x => exact isArgument_px hd
  | resource r => exact isArgument_resource hd

/-! ### Sides -/

inductive Side
  | leading
  | top
  | trailing
  | bottom
  deriving DecidableEq

namespace Side

def all : List Side :=
  [leading, top, trailing, bottom]

/-- The sides that an argument is for. One without a name is for all of them. -/
def named? : Option String → Option (List Side)
  | none => some all
  | some "horizontal" => some [leading, trailing]
  | some "vertical" => some [top, bottom]
  | some "start" => some [leading]
  | some "top" => some [top]
  | some "end" => some [trailing]
  | some "bottom" => some [bottom]
  | some _ => none

end Side

def Side.length? (e : Edges) : Side → Option Dimension
  | .leading => e.leading
  | .top => e.top
  | .trailing => e.trailing
  | .bottom => e.bottom

/-- The sides for which a length is given, each with the text of its own. -/
def sideTexts (e : Edges) : List (Side × String) :=
  Side.all.filterMap fun s => (Side.length? e s).map fun d => (s, d.dpExpression)

/-- The sides that an argument is for, with their text. -/
def readSides? (argument : List Char) : Option (List Side × String) :=
  (Side.named? (splitName argument).1).map fun sides => (sides, (splitName argument).2)

/-- The texts given for each of the sides, one side after the other. -/
def spread (given : List (List Side × String)) : List (Side × String) :=
  Side.all.flatMap fun side =>
    (given.filter fun (sides, _) => side ∈ sides).map fun (_, text) => (side, text)

/-- The sides that an inset is for, each with its text. -/
def expandPadding? : Option String → Option (List (Side × String))
  | none => some []
  | some call => do
    let inside ← inside? "padding(" call
    let given ← (splitArguments inside).mapM readSides?
    return spread given

theorem all_isAlpha_of_named? {name : String} {sides : List Side}
    (h : Side.named? (some name) = some sides) :
    Kotlin.Begins name ∧ name.toList.all Char.isAlpha = true := by
  unfold Side.named? at h
  split at h
  case h_1 heq => cases heq
  case h_8 => cases h
  all_goals
    rename_i heq
    obtain rfl := Option.some.inj heq
    exact ⟨⟨_, rfl, by decide⟩, by decide⟩

def named (sides : List (String × Option Dimension)) : List (List Side × String) :=
  sides.filterMap fun (name, side) =>
    side.map fun d => ((Side.named? (some name)).getD [], d.dpExpression)

theorem mapM_readSides?_sideArguments {sides : List (String × Option Dimension)}
    (hnames : ∀ s ∈ sides, (Side.named? (some s.1)).isSome = true) :
    ((sideArguments sides).map String.toList).mapM readSides? = some (named sides) := by
  induction sides with
  | nil => rfl
  | cons s sides ih =>
      obtain ⟨name, side⟩ := s
      obtain ⟨hname, hrest⟩ := List.forall_mem_cons.mp hnames
      cases side with
      | none => exact ih hrest
      | some d =>
          obtain ⟨found, hfound⟩ := Option.isSome_iff_exists.mp hname
          have hsplit := splitName_named (all_isAlpha_of_named? hfound).2 d.dpExpression
          change (((name ++ " = " ++ d.dpExpression) :: sideArguments sides).map
            String.toList).mapM readSides? = some ((_, d.dpExpression) :: named sides)
          rw [List.map_cons, List.mapM_cons, ih hrest, readSides?, hsplit]
          simp [hfound]

/-- An inset with named arguments is read as they are given. -/
theorem expandPadding?_named {sides : List (String × Option Dimension)}
    (hnames : ∀ s ∈ sides, (Side.named? (some s.1)).isSome = true)
    (hproper : ∀ s ∈ sides, ∀ d ∈ s.2, d.Proper) (hne : sideArguments sides ≠ []) :
    expandPadding? (some ("padding(" ++ ", ".intercalate (sideArguments sides) ++ ")")) =
      some (spread (named sides)) := by
  have harguments : splitArguments (", ".intercalate (sideArguments sides)).toList =
      (sideArguments sides).map String.toList := by
    refine splitArguments_intercalate hne ?_ ?_
    all_goals
      intro text htext
      obtain ⟨⟨name, side⟩, hmem, hside⟩ := List.mem_filterMap.mp htext
      obtain ⟨d, hd, rfl⟩ := Option.map_eq_some_iff.mp hside
      obtain ⟨found, hfound⟩ := Option.isSome_iff_exists.mp (hnames _ hmem)
      obtain ⟨hbegins, halpha⟩ := all_isAlpha_of_named? hfound
    · have hcomma : ',' ∉ name.toList := fun hcomma =>
        Bool.false_ne_true (List.all_eq_true.mp halpha ',' hcomma)
      have hvalue := (isArgument_dpExpression (hproper _ hmem d hd)).comma
      simp [hcomma, hvalue]
    · exact (hbegins.append _).append _
  rw [expandPadding?, inside?_call, Option.bind_eq_bind, Option.bind_some, harguments,
    mapM_readSides?_sideArguments hnames]
  rfl

/-- An inset with one argument that has no name is for all sides. -/
theorem expandPadding?_unnamed {value : String} (h : IsArgument value) :
    expandPadding? (some ("padding(" ++ value ++ ")")) =
      some (Side.all.map fun side => (side, value)) := by
  have harguments : splitArguments value.toList = [value.toList] := by
    have hsplit := splitArguments_intercalate (List.cons_ne_nil value [])
      (by simpa using h.comma) (by simpa using h.begins)
    simpa using hsplit
  rw [expandPadding?, inside?_call, Option.bind_eq_bind, Option.bind_some, harguments,
    List.mapM_cons, readSides?, h.unnamed]
  rfl

theorem isEmpty_iff {e : Edges} : e.isEmpty = true ↔ e.essential = {} := by
  have hside (side : Option Dimension) : side.all Dimension.isZero = true ↔
      (side.filter fun d => !d.isZero) = none := by
    cases side <;> simp [Option.filter]
  simp [Edges.isEmpty, Edges.sides, Edges.essential, hside]

theorem proper_essential {e : Edges} (he : e.Proper) : e.essential.Proper := by
  have hside (side : Option Dimension) (h : ∀ d ∈ side, d.Proper) :
      ∀ d ∈ side.filter fun d => !d.isZero, d.Proper :=
    fun d hd => h d (Option.filter_eq_some_iff.mp hd).1
  simp only [Edges.Proper, Edges.sides, List.forall_mem_cons] at he ⊢
  exact ⟨hside _ he.1, hside _ he.2.1, hside _ he.2.2.1, hside _ he.2.2.2.1, he.2.2.2.2⟩

/-- Sides that are equal up to the sign of zero are written alike. -/
theorem map_dpExpression_of_sameSide {a b : Option Dimension} (ha : ∀ d ∈ a, d.Proper)
    (hb : ∀ d ∈ b, d.Proper) (h : sameSide a b = true) :
    a.map Dimension.dpExpression = b.map Dimension.dpExpression := by
  cases a <;> cases b <;> simp only [sameSide, Bool.false_eq_true] at h
  case none.none => rfl
  case some.some d e =>
    exact congrArg some (Dimension.dpExpression_of_eq (ha d rfl) (hb e rfl) h)

theorem sideTexts_congr {e e' : Edges}
    (h : ∀ s, (Side.length? e s).map Dimension.dpExpression =
      (Side.length? e' s).map Dimension.dpExpression) : sideTexts e = sideTexts e' := by
  have hpair (s : Side) (side : Option Dimension) : (side.map fun d => (s, d.dpExpression)) =
      (side.map Dimension.dpExpression).map fun text => (s, text) := by
    cases side <;> rfl
  simp only [sideTexts, hpair, h]

@[simp] theorem spread_named_pairs (leading top : Option Dimension) :
    spread (named [("horizontal", leading), ("vertical", top)]) =
      sideTexts ⟨leading, top, leading, top⟩ := by
  cases leading <;> cases top <;> rfl

@[simp] theorem spread_named_sides (e : Edges) :
    spread (named [("start", e.leading), ("top", e.top), ("end", e.trailing),
      ("bottom", e.bottom)]) = sideTexts e := by
  obtain ⟨leading, top, trailing, bottom⟩ := e
  cases leading <;> cases top <;> cases trailing <;> cases bottom <;> rfl

theorem expandPadding?_uniform {e : Edges} (he : e.Proper)
    (htop : sameSide e.leading e.top = true) (htrailing : sameSide e.top e.trailing = true)
    (hbottom : sameSide e.trailing e.bottom = true) :
    expandPadding? (e.leading.map fun d => "padding(" ++ d.dpExpression ++ ")") =
      some (sideTexts e) := by
  obtain ⟨leading, top, trailing, bottom⟩ := e
  simp only [Edges.Proper, Edges.sides, List.forall_mem_cons] at he
  replace htop := map_dpExpression_of_sameSide he.1 he.2.1 htop
  replace htrailing := map_dpExpression_of_sameSide he.2.1 he.2.2.1 htrailing
  replace hbottom := map_dpExpression_of_sameSide he.2.2.1 he.2.2.2.1 hbottom
  have htexts : sideTexts ⟨leading, top, trailing, bottom⟩ =
      sideTexts ⟨leading, leading, leading, leading⟩ := by
    refine sideTexts_congr fun s => ?_
    cases s <;> simp [Side.length?, ← hbottom, ← htrailing, ← htop]
  cases leading with
  | none =>
      rw [htexts]
      rfl
  | some d =>
      rw [htexts, Option.map_some, expandPadding?_unnamed (isArgument_dpExpression (he.1 d rfl))]
      rfl

theorem expandPadding?_pairs {e : Edges} (he : e.Proper) (hne : e ≠ {})
    (htrailing : sameSide e.leading e.trailing = true) (hbottom : sameSide e.top e.bottom = true) :
    expandPadding? (some ("padding(" ++ ", ".intercalate
      (sideArguments [("horizontal", e.leading), ("vertical", e.top)]) ++ ")")) =
      some (sideTexts e) := by
  obtain ⟨leading, top, trailing, bottom⟩ := e
  simp only [Edges.Proper, Edges.sides, List.forall_mem_cons] at he
  replace htrailing := map_dpExpression_of_sameSide he.1 he.2.2.1 htrailing
  replace hbottom := map_dpExpression_of_sameSide he.2.1 he.2.2.2.1 hbottom
  have htexts : sideTexts ⟨leading, top, trailing, bottom⟩ =
      sideTexts ⟨leading, top, leading, top⟩ := by
    refine sideTexts_congr fun s => ?_
    cases s <;> simp [Side.length?, ← hbottom, ← htrailing]
  rw [expandPadding?_named, htexts, spread_named_pairs]
  · simp [Side.named?]
  · simpa using ⟨he.1, he.2.1⟩
  · cases leading <;> cases top <;> simp_all [sideArguments]

theorem expandPadding?_sides {e : Edges} (he : e.Proper) (hne : e ≠ {}) :
    expandPadding? (some ("padding(" ++ ", ".intercalate (sideArguments [("start", e.leading),
      ("top", e.top), ("end", e.trailing), ("bottom", e.bottom)]) ++ ")")) =
      some (sideTexts e) := by
  rw [expandPadding?_named, spread_named_sides]
  · simp [Side.named?]
  · simpa [Edges.Proper, Edges.sides] using he
  · obtain ⟨leading, top, trailing, bottom⟩ := e
    cases leading <;> cases top <;> cases trailing <;> cases bottom <;> simp_all [sideArguments]

/-- Expanding an inset gives the sides that take room, each with the text of its own length. -/
theorem expandPadding?_paddingCall? {e : Edges} (he : e.Proper) :
    expandPadding? (paddingCall? e) = some (sideTexts e.essential) := by
  have hleading : (e.leading.filter fun d => !d.isZero) = e.essential.leading := rfl
  have htop : (e.top.filter fun d => !d.isZero) = e.essential.top := rfl
  have htrailing : (e.trailing.filter fun d => !d.isZero) = e.essential.trailing := rfl
  have hbottom : (e.bottom.filter fun d => !d.isZero) = e.essential.bottom := rfl
  simp only [paddingCall?, hleading, htop, htrailing, hbottom]
  split
  · rename_i hempty
    rw [isEmpty_iff.mp hempty]
    rfl
  · rename_i hempty
    have hproper := proper_essential he
    have hne : e.essential ≠ {} := fun h => hempty (isEmpty_iff.mpr h)
    split
    · rename_i hsame
      simp only [Bool.and_eq_true] at hsame
      exact expandPadding?_uniform hproper hsame.1.1 hsame.1.2 hsame.2
    · split
      · rename_i hsame
        rw [Bool.and_eq_true] at hsame
        exact expandPadding?_pairs hproper hne hsame.1 hsame.2
      · exact expandPadding?_sides hproper hne

/-! ### Axes -/

inductive Axis
  | width
  | height
  deriving DecidableEq

namespace Axis

def fixed : Axis → String
  | width => "width"
  | height => "height"

def fill : Axis → String
  | width => "fillMaxWidth"
  | height => "fillMaxHeight"

def calls (axis : Axis) : Extent → List String
  | .wrap => []
  | .fill => [axis.fill ++ "()"]
  | .fraction part => [axis.fill ++ "(" ++ Kotlin.floatLiteral part ++ ")"]
  | .fixed d => [axis.fixed ++ "(" ++ d.dpExpression ++ ")"]

end Axis

/-- The calls for each axis that a call for the size stands for. -/
def expandSize (call : String) : List String :=
  if call = "fillMaxSize()" then ["fillMaxWidth()", "fillMaxHeight()"]
  else
    match inside? "size(" call with
    | some inside =>
      ["width(" ++ String.ofList inside ++ ")", "height(" ++ String.ofList inside ++ ")"]
    | none => [call]

@[simp] theorem expandSize_both (text : String) :
    expandSize ("size(" ++ text ++ ")") = ["width(" ++ text ++ ")", "height(" ++ text ++ ")"] := by
  have hfill : "size(" ++ text ++ ")" ≠ "fillMaxSize()" := fun h => by
    simpa using congrArg String.toList h
  rw [expandSize, if_neg hfill, inside?_call]
  simp only [String.ofList_toList]

theorem expandSize_self {call : String} (hfill : call.toList ≠ "fillMaxSize()".toList)
    (hsize : Text.stripHead? "size(".toList call.toList = none) : expandSize call = [call] := by
  rw [expandSize, if_neg fun h => hfill (congrArg String.toList h), inside?, hsize]
  rfl

/-- A call for one axis stands for itself. -/
@[simp] theorem flatMap_expandSize_calls (axis : Axis) (extent : Extent) :
    (axis.calls extent).flatMap expandSize = axis.calls extent := by
  have hfill (argument : String) :
      expandSize (axis.fill ++ "(" ++ argument ++ ")") = [axis.fill ++ "(" ++ argument ++ ")"] := by
    cases axis <;>
      exact expandSize_self (by simp [Axis.fill]) (by simp [Axis.fill, Text.stripHead?])
  have hfixed (argument : String) :
      expandSize (axis.fixed ++ "(" ++ argument ++ ")") =
        [axis.fixed ++ "(" ++ argument ++ ")"] := by
    cases axis <;>
      exact expandSize_self (by simp [Axis.fixed]) (by simp [Axis.fixed, Text.stripHead?])
  cases extent with
  | wrap => rfl
  | fill => cases axis <;> rfl
  | fraction part => rw [Axis.calls, List.flatMap_singleton, hfill]
  | fixed d => rw [Axis.calls, List.flatMap_singleton, hfixed]

/-- Expanding the calls for the size gives those of each axis taken alone. -/
theorem flatMap_expandSize_sizeCalls {width height : Extent} (hwidth : width.Proper)
    (hheight : height.Proper) : (sizeCalls width height).flatMap expandSize =
      Axis.width.calls width ++ Axis.height.calls height := by
  have hboth : ((widthCall? width).toList ++ (heightCall? height).toList).flatMap expandSize =
      Axis.width.calls width ++ Axis.height.calls height := by
    have hcalls : (widthCall? width).toList ++ (heightCall? height).toList =
        Axis.width.calls width ++ Axis.height.calls height := by
      cases width <;> cases height <;> rfl
    rw [hcalls, List.flatMap_append, flatMap_expandSize_calls, flatMap_expandSize_calls]
  unfold sizeCalls
  dsimp only
  split
  · rfl
  · split
    · rename_i heq
      rw [List.flatMap_singleton, expandSize_both, Axis.calls, Axis.calls,
        ← Dimension.dpExpression_of_eq hwidth hheight heq]
      rfl
    · exact hboth
  · exact hboth

/-- Compact calls lose nothing. An inset is for the sides that take room, each with the text of its
own length, and the calls for the size are those that each axis asks for by itself. -/
theorem compact_calls_expand {e : Edges} {width height : Extent}
    (hedges : ∀ side ∈ e.sides, ∀ d ∈ side, ∃ s, Dimension.read s = .ok d)
    (hwidth : ∃ s, Extent.read s = .ok width) (hheight : ∃ s, Extent.read s = .ok height) :
    expandPadding? (paddingCall? e) = some (sideTexts e.essential) ∧
      (sizeCalls width height).flatMap expandSize =
        Axis.width.calls width ++ Axis.height.calls height := by
  obtain ⟨wide, hwide⟩ := hwidth
  obtain ⟨high, hhigh⟩ := hheight
  refine ⟨expandPadding?_paddingCall? fun side hside d hd => ?_,
    flatMap_expandSize_sizeCalls (Extent.proper_of_read hwide) (Extent.proper_of_read hhigh)⟩
  obtain ⟨s, hs⟩ := hedges side hside d hd
  exact Dimension.proper_of_read hs

/-- A zero takes no room with either sign, and the two zeros are one size. -/
theorem compact_calls_expand_zeros :
    let four := Dimension.dp (Single.ofNat 4)
    let zero := Dimension.dp Single.zero
    let negative := Dimension.dp { Single.zero with negative := true }
    let e : Edges := ⟨some four, some zero, some four, some negative⟩
    paddingCall? e = some "padding(horizontal = 4.dp)" ∧
      sideTexts e.essential = [(.leading, "4.dp"), (.trailing, "4.dp")] ∧
      sizeCalls (.fixed zero) (.fixed negative) = ["size(0.dp)"] ∧
      expandPadding? (paddingCall? e) = some (sideTexts e.essential) ∧
      (sizeCalls (.fixed zero) (.fixed negative)).flatMap expandSize =
        Axis.width.calls (.fixed zero) ++ Axis.height.calls (.fixed negative) := by
  intro four zero negative e
  have hedges : ∀ side ∈ e.sides, ∀ d ∈ side, ∃ s, Dimension.read s = .ok d := by
    have hfour : ∃ s, Dimension.read s = .ok four := ⟨"4dp", by decide +kernel⟩
    have hzero : ∃ s, Dimension.read s = .ok zero := ⟨"0dp", by decide +kernel⟩
    have hnegative : ∃ s, Dimension.read s = .ok negative := ⟨"-0dp", by decide +kernel⟩
    simpa [e, Edges.sides] using ⟨hfour, hzero, hfour, hnegative⟩
  exact ⟨by decide +kernel, by decide +kernel, by decide +kernel,
    compact_calls_expand hedges ⟨"0dp", by decide +kernel⟩ ⟨"-0dp", by decide +kernel⟩⟩

end Compose

end LayoutCompose
