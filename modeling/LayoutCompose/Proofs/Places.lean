import LayoutCompose.Batch.Files
import Mathlib.Data.List.Basic
import Mathlib.Data.List.Infix
import Mathlib.Data.List.TakeWhile

/-!
The places that paths lead to.

A path is a list of names between slashes. From the root, or else from the current directory, each
name leads on to a place, and all places but the last have to be directories. The names of a path
above another are the first names of the other, so whoever can follow a path to its end passes all
the directories above it.
-/

namespace LayoutCompose

namespace Text

variable {mark : Char}

theorem pieces_cons_of_ne {c : Char} (h : c ≠ mark) (cs : List Char) : ∃ piece rest,
    pieces mark cs = piece :: rest ∧ pieces mark (c :: cs) = (c :: piece) :: rest := by
  cases hcs : pieces mark cs with
  | nil =>
      cases cs with
      | nil => cases hcs
      | cons d ds =>
          rw [pieces] at hcs
          split at hcs
          · cases hcs
          · split at hcs <;> cases hcs
  | cons piece rest => exact ⟨piece, rest, rfl, by simp only [pieces, if_neg h, hcs]⟩

theorem pieces_ne_nil (mark : Char) (cs : List Char) : pieces mark cs ≠ [] := by
  cases cs with
  | nil => exact List.cons_ne_nil _ _
  | cons c cs =>
      by_cases h : c = mark
      · simp [pieces, h]
      · obtain ⟨piece, rest, -, hpieces⟩ := pieces_cons_of_ne h cs
        simp [hpieces]

theorem not_mem_of_mem_pieces {cs piece : List Char} (h : piece ∈ pieces mark cs) :
    mark ∉ piece := by
  induction cs generalizing piece with
  | nil =>
      obtain rfl := List.mem_singleton.mp h
      exact List.not_mem_nil
  | cons c cs ih =>
      by_cases hc : c = mark
      · rw [pieces, if_pos hc, List.mem_cons] at h
        rcases h with rfl | h
        · exact List.not_mem_nil
        · exact ih h
      · obtain ⟨first, rest, hcs, hpieces⟩ := pieces_cons_of_ne hc cs
        rw [hpieces, List.mem_cons] at h
        rcases h with rfl | h
        · intro hmem
          rcases List.mem_cons.mp hmem with rfl | hmem
          · exact hc rfl
          · exact ih (by simp [hcs]) hmem
        · exact ih (by simp [hcs, h])

/-- A text is cut at each mark. -/
@[simp] theorem pieces_append_cons (mark : Char) (cs ds : List Char) :
    pieces mark (cs ++ mark :: ds) = pieces mark cs ++ pieces mark ds := by
  induction cs with
  | nil => simp [pieces]
  | cons c cs ih =>
      by_cases hc : c = mark
      · simp [pieces, hc, ih]
      · obtain ⟨first, rest, hcs, hpieces⟩ := pieces_cons_of_ne hc cs
        rw [hcs] at ih
        rw [hpieces, List.cons_append, pieces, if_neg hc, ih]
        rfl

theorem pieces_of_not_mem {cs : List Char} (h : mark ∉ cs) : pieces mark cs = [cs] := by
  induction cs with
  | nil => rfl
  | cons c cs ih =>
      rw [List.mem_cons, not_or] at h
      rw [pieces, if_neg (Ne.symm h.1), ih h.2]

/-- Texts put together at marks are cut at these marks and at those within them. -/
theorem pieces_intercalate_flatMap {ps : List (List Char)} (hne : ps ≠ []) :
    pieces mark (List.intercalate [mark] ps) = ps.flatMap (pieces mark) := by
  induction ps with
  | nil => exact absurd rfl hne
  | cons p ps ih =>
      cases ps with
      | nil => simp
      | cons q ps =>
          rw [List.intercalate_cons_cons, List.append_assoc, List.singleton_append,
            pieces_append_cons, ih (List.cons_ne_nil _ _)]
          rfl

theorem pieces_intercalate {ps : List (List Char)} (hne : ps ≠ []) (h : ∀ p ∈ ps, mark ∉ p) :
    pieces mark (List.intercalate [mark] ps) = ps := by
  calc pieces mark (List.intercalate [mark] ps)
    _ = ps.flatMap (pieces mark) := pieces_intercalate_flatMap hne
    _ = ps.flatMap fun p => [p] := List.flatMap_congr fun p hp => pieces_of_not_mem (h p hp)
    _ = ps := List.flatMap_singleton' ps

@[simp] theorem intercalate_pieces (mark : Char) (cs : List Char) :
    List.intercalate [mark] (pieces mark cs) = cs := by
  induction cs with
  | nil => rfl
  | cons c cs ih =>
      by_cases hc : c = mark
      · obtain ⟨piece, rest, hcs⟩ := List.exists_cons_of_ne_nil (pieces_ne_nil mark cs)
        rw [pieces, if_pos hc, hcs, List.intercalate_cons_cons, ← hcs, ih, hc]
        rfl
      · obtain ⟨piece, rest, hcs, hpieces⟩ := pieces_cons_of_ne hc cs
        rw [hcs] at ih
        rw [hpieces]
        cases rest with
        | nil => simpa using ih
        | cons q rest =>
            rw [List.intercalate_cons_cons] at ih ⊢
            rw [← ih]
            rfl

theorem intercalate_append_cons (sep : List Char) {as : List (List Char)} (hne : as ≠ [])
    (b : List Char) (bs : List (List Char)) : List.intercalate sep (as ++ b :: bs) =
      List.intercalate sep as ++ (sep ++ List.intercalate sep (b :: bs)) := by
  induction as with
  | nil => exact absurd rfl hne
  | cons a as ih =>
      cases as with
      | nil => simp [List.intercalate_cons_cons]
      | cons a' as =>
          have hrest := ih (List.cons_ne_nil _ _)
          rw [List.cons_append] at hrest
          rw [List.cons_append, List.cons_append, List.intercalate_cons_cons, hrest,
            List.intercalate_cons_cons]
          simp only [List.append_assoc]

end Text

/-! ### The names of a path -/

namespace Path

/-- The names that a path is made of. A path from the root has an empty name in front. -/
def names (path : String) : List String :=
  (Text.pieces '/' path.toList).map String.ofList

theorem names_ne_nil (path : String) : names path ≠ [] := by
  simpa [names] using Text.pieces_ne_nil '/' path.toList

theorem solid_isPrefix (ps : List (List Char)) : solid ps <+: ps := by
  rw [solid, ← List.reverse_suffix, List.reverse_reverse]
  exact List.dropWhile_suffix _

theorem dropLast_prefix_dropLast {α : Type} {as bs : List α} (h : as <+: bs) :
    as.dropLast <+: bs.dropLast := by
  obtain ⟨rest, rfl⟩ := h
  by_cases hrest : rest = []
  · simp [hrest]
  · rw [List.dropLast_append_of_ne_nil hrest]
    exact (List.dropLast_prefix as).trans (List.prefix_append ..)

theorem names_ofList_intercalate {path : String} {qs : List (List Char)} (hne : qs ≠ [])
    (h : qs <+: (Text.pieces '/' path.toList).dropLast) :
    names (String.ofList (List.intercalate ['/'] qs)) <+: (names path).dropLast := by
  have hslash : ∀ q ∈ qs, '/' ∉ q := fun q hq =>
    Text.not_mem_of_mem_pieces ((h.trans (List.dropLast_prefix _)).subset hq)
  rw [names, String.toList_ofList, Text.pieces_intercalate hne hslash, names, ← List.map_dropLast]
  exact h.map _

theorem splitHead_cases (cs : List Char) :
    (∃ ds, cs = '/' :: ds ∧ splitHead cs = (['/'], ds)) ∨
      (cs = ['.'] ∧ splitHead cs = (['.'], [])) ∨
        (∃ ds, cs = '.' :: '/' :: ds ∧ splitHead cs = (['.'], '/' :: ds)) ∨
          splitHead cs = ([], cs) := by
  unfold splitHead
  split
  · exact .inl ⟨_, rfl, rfl⟩
  · exact .inr (.inl ⟨rfl, rfl⟩)
  · exact .inr (.inr (.inl ⟨_, rfl, rfl⟩))
  · exact .inr (.inr (.inr rfl))

theorem eq_of_isPrefix_cons {ps rest : List (List Char)} {p : List Char} (h : ps <+: p :: rest) :
    ps = [] ∨ ∃ qs, ps = p :: qs ∧ qs <+: rest := by
  cases ps with
  | nil => exact .inl rfl
  | cons q qs =>
      obtain ⟨rfl, hqs⟩ := List.cons_prefix_cons.mp h
      exact .inr ⟨qs, rfl, hqs⟩

/-- The names of the path above a path are the first names of it, and fewer. -/
theorem names_parent {path above : String} (h : parent? path = some above) :
    above = "" ∨ above = "/" ∨ names above <+: (names path).dropLast := by
  unfold parent? at h
  dsimp only at h
  split at h
  · split at h
    · exact .inl (Option.some.inj h).symm
    · cases h
  rename_i hpieces
  have hqs : solid (pieces path).dropLast <+:
      (Text.pieces '/' (splitHead path.toList).2).dropLast :=
    (solid_isPrefix _).trans (dropLast_prefix_dropLast (solid_isPrefix _))
  obtain rfl := Option.some.inj h
  clear h
  generalize solid (pieces path).dropLast = qs at hqs
  rcases splitHead_cases path.toList with ⟨cs, hcs, hsplit⟩ | ⟨hcs, hsplit⟩ | ⟨cs, hcs, hsplit⟩ |
    hsplit <;> rw [hsplit] at hqs ⊢ <;> dsimp only at hqs ⊢
  · cases qs with
    | nil => exact .inr (.inl rfl)
    | cons q qs =>
        have hroot : ['/'] ++ List.intercalate ['/'] (q :: qs) =
            List.intercalate ['/'] ([] :: q :: qs) := by
          simp [List.intercalate_cons_cons]
        rw [hroot]
        refine .inr (.inr (names_ofList_intercalate (List.cons_ne_nil _ _) ?_))
        rw [hcs, Text.pieces, if_pos rfl,
          List.dropLast_cons_of_ne_nil (Text.pieces_ne_nil '/' cs)]
        exact List.cons_prefix_cons.mpr ⟨rfl, hqs⟩
  · exact absurd (by rw [pieces, hsplit]; rfl) hpieces
  · rw [Text.pieces, if_pos rfl, List.dropLast_cons_of_ne_nil (Text.pieces_ne_nil '/' cs)] at hqs
    obtain ⟨rest, hrest, hdot⟩ : ∃ rest, rest <+: (Text.pieces '/' cs).dropLast ∧
        ['.'] ++ List.intercalate ['/'] qs = List.intercalate ['/'] (['.'] :: rest) := by
      rcases eq_of_isPrefix_cons hqs with rfl | ⟨rest, rfl, hrest⟩
      · exact ⟨[], List.nil_prefix, rfl⟩
      · refine ⟨rest, hrest, ?_⟩
        cases rest <;> simp [List.intercalate_cons_cons]
    rw [hdot]
    refine .inr (.inr (names_ofList_intercalate (List.cons_ne_nil _ _) ?_))
    have hpieces : Text.pieces '/' ('.' :: '/' :: cs) = ['.'] :: Text.pieces '/' cs :=
      Text.pieces_append_cons '/' ['.'] cs
    rw [hcs, hpieces, List.dropLast_cons_of_ne_nil (Text.pieces_ne_nil '/' cs)]
    exact List.cons_prefix_cons.mpr ⟨rfl, hrest⟩
  · cases qs with
    | nil => exact .inl rfl
    | cons q qs =>
        rw [List.nil_append]
        exact .inr (.inr (names_ofList_intercalate (List.cons_ne_nil _ _) hqs))

@[simp] theorem parent?_empty : parent? "" = none := by decide

@[simp] theorem parent?_root : parent? "/" = none := by decide

/-- The paths above a path have the first names of it, or are the root or nothing at all. -/
theorem names_of_mem_parents {count : Nat} {path above : String}
    (h : above ∈ parents count path) :
    above = "" ∨ above = "/" ∨ names above <+: names path := by
  induction count generalizing path with
  | zero => cases h
  | succ count ih =>
      rw [parents] at h
      split at h
      · rename_i parent hparent
        rcases names_parent hparent with rfl | rfl | hnames
        · cases count <;> simp_all [parents, parent?_empty]
        · cases count <;> simp_all [parents, parent?_root]
        · have hprefix := hnames.trans (List.dropLast_prefix _)
          rcases List.mem_cons.mp h with rfl | h
          · exact .inr (.inr hprefix)
          · rcases ih h with hempty | hroot | habove
            · exact .inl hempty
            · exact .inr (.inl hroot)
            · exact .inr (.inr (habove.trans hprefix))
      · cases h

theorem toList_eq_intercalate (path : String) :
    path.toList = List.intercalate ['/'] ((names path).map String.toList) := by
  have hmap : (names path).map String.toList = Text.pieces '/' path.toList := by
    rw [names, List.map_map]
    exact (List.map_congr_left fun _ _ => String.toList_ofList).trans (List.map_id _)
  rw [hmap, Text.intercalate_pieces]

/-- A path with the first names of another is the beginning of its text. -/
theorem exists_eq_append {path other : String} (h : names path <+: names other) :
    ∃ rest, other = path ++ rest := by
  obtain ⟨rest, hrest⟩ := h
  have hother := toList_eq_intercalate other
  rw [← hrest, List.map_append] at hother
  cases rest with
  | nil =>
      rw [List.map_nil, List.append_nil, ← toList_eq_intercalate] at hother
      exact ⟨"", by rw [String.append_empty, String.toList_inj.mp hother]⟩
  | cons name rest =>
      have hne : (names path).map String.toList ≠ [] := by simpa using names_ne_nil path
      rw [List.map_cons, Text.intercalate_append_cons _ hne, ← toList_eq_intercalate] at hother
      refine ⟨String.ofList (['/'] ++
        List.intercalate ['/'] (name.toList :: rest.map String.toList)), ?_⟩
      rw [← String.toList_inj, hother, String.toList_append, String.toList_ofList]

theorem slash_not_mem_stem (path : String) : '/' ∉ (stem path).toList := by
  unfold stem
  split
  · rename_i name hname
    rw [fileName?, Option.filter_eq_some_iff] at hname
    have hmem := (solid_isPrefix _).subset (List.mem_of_getLast? hname.1)
    rw [String.toList_ofList]
    intro hslash
    refine Text.not_mem_of_mem_pieces hmem ?_
    unfold dropExtension at hslash
    split at hslash
    · rename_i d c cs hrest
      have hsuffix := List.dropWhile_suffix (l := name.reverse) (· != '.')
      rw [hrest] at hsuffix
      rw [← List.mem_reverse]
      exact hsuffix.subset (List.mem_cons_of_mem _ (List.mem_reverse.mp hslash))
    · exact hslash
  · decide

/-- The path above a name in a directory has the first names of the directory. -/
theorem dropLast_names_join {directory name : String} (hname : '/' ∉ name.toList) :
    (names (join directory name)).dropLast <+: names directory := by
  have hpieces := Text.pieces_of_not_mem hname
  unfold join
  split
  · rename_i hdirectory
    rcases hdirectory with rfl | hslash
    · rw [String.empty_append, names, hpieces]
      exact List.nil_prefix
    · obtain ⟨cs, hcs⟩ := List.getLast?_eq_some_iff.mp hslash
      rw [names, names, String.toList_append, hcs, List.append_assoc, List.singleton_append,
        Text.pieces_append_cons, Text.pieces_append_cons, hpieces, List.map_append, List.map_append]
      simp
  · rw [names, String.toList_append, String.toList_append, List.append_assoc]
    have hslash : "/".toList ++ name.toList = '/' :: name.toList := rfl
    rw [hslash, Text.pieces_append_cons, hpieces, List.map_append]
    simp [names]

end Path

/-! ### Following names -/

namespace Files

variable {files : Files}

def start (files : Files) (path : String) : List String :=
  if (Path.names path).head? = some "" then [] else files.here

/-- The place that names lead to, whatever there is. -/
def follow (place names : List String) : List String :=
  names.foldl step place

/-- Every name leads to a directory. -/
def Passes (files : Files) : (place names : List String) → Prop
  | _, [] => True
  | place, name :: names =>
      files.find? (step place name) = some .directory ∧ files.Passes (step place name) names

@[simp] theorem passes_append {place names rest : List String} :
    files.Passes place (names ++ rest) ↔
      files.Passes place names ∧ files.Passes (follow place names) rest := by
  induction names generalizing place with
  | nil => simp [Passes, follow]
  | cons name names ih =>
      simp only [List.cons_append, Passes, ih, follow, List.foldl_cons, and_assoc]

theorem Passes.of_isPrefix {place names first : List String} (h : files.Passes place names)
    (hfirst : first <+: names) : files.Passes place first := by
  obtain ⟨rest, rfl⟩ := hfirst
  exact (passes_append.mp h).1

theorem passes_iff_dropLast {place names : List String} (hne : names ≠ []) :
    files.Passes place names ↔ files.Passes place names.dropLast ∧
      files.find? (follow place names) = some .directory := by
  obtain ⟨first, last, rfl⟩ : ∃ first last, names = first ++ [last] :=
    ⟨_, _, (List.dropLast_append_getLast hne).symm⟩
  simp [passes_append, Passes, follow]

theorem walk_eq_ok_iff {place names p : List String} : files.walk place names = .ok p ↔
    (∀ name ∈ names, name.utf8ByteSize ≤ maxName) ∧ files.Passes place names.dropLast ∧
      follow place names = p := by
  fun_induction walk files place names with
  | case1 place => simp [Passes, follow]
  | case2 place name hlong =>
      refine iff_of_false (by simp) fun h => ?_
      exact Nat.not_le.mpr hlong (h.1 name (List.mem_cons_self ..))
  | case3 place name hshort => simp [Passes, follow, Nat.le_of_not_lt hshort]
  | case4 place name names hne hlong =>
      refine iff_of_false (by simp) fun h => ?_
      exact Nat.not_le.mpr hlong (h.1 name (List.mem_cons_self ..))
  | case5 place name names hne hshort hfind ih =>
      rw [ih, List.forall_mem_cons, List.dropLast_cons_of_ne_nil hne, Passes, hfind]
      simp only [Nat.le_of_not_lt hshort, true_and, follow, List.foldl_cons]
  | case6 place name names hne hshort contents hfind =>
      refine iff_of_false (by simp) fun h => ?_
      rw [List.dropLast_cons_of_ne_nil hne, Passes, hfind] at h
      cases h.2.1.1
  | case7 place name names hne hshort hfind =>
      refine iff_of_false (by simp) fun h => ?_
      rw [List.dropLast_cons_of_ne_nil hne, Passes, hfind] at h
      cases h.2.1.1

/-- An empty name in front leads from the root to the root. -/
theorem walk_root (files : Files) {names : List String} (hne : names ≠ []) :
    files.walk [] ("" :: names) = files.walk [] names := by
  obtain ⟨name, names, rfl⟩ := List.exists_cons_of_ne_nil hne
  have hroot : files.find? (step [] "") = some .directory := rfl
  rw [walk, if_neg (by decide), hroot]
  · rfl
  · exact List.cons_ne_nil _ _

end Files

/-- A path that can be looked up at all: it is not empty, has no character zero, and neither the
path nor a name in it is too long. -/
structure Path.Acceptable (path : String) : Prop where
  ne_empty : path ≠ ""
  no_nul : ∀ c ∈ path.toList, c.toNat ≠ 0
  size : path.utf8ByteSize ≤ Files.maxPath
  names : ∀ name ∈ Path.names path, name.utf8ByteSize ≤ Files.maxName

namespace Files

variable {files : Files}

theorem resolve_eq_walk {path : String} (hne : path ≠ "")
    (hnul : ∀ c ∈ path.toList, c.toNat ≠ 0) (hsize : path.utf8ByteSize ≤ maxPath) :
    files.resolve path = files.walk (files.start path) (Path.names path) := by
  have hnone : ¬(path.toList.any fun c => c.toNat == 0) = true := by simpa using hnul
  rw [resolve, if_neg hnone, if_neg (Nat.not_lt.mpr hsize), start, Path.names]
  cases hcs : path.toList with
  | nil => exact absurd (String.toList_eq_nil_iff.mp hcs) hne
  | cons c cs =>
      by_cases hc : c = '/'
      · subst hc
        have hrest : (Text.pieces '/' cs).map String.ofList ≠ [] := by
          simpa using Text.pieces_ne_nil '/' cs
        simp only [Text.pieces, ↓reduceIte, List.map_cons, List.head?_cons]
        exact (walk_root files hrest).symm
      · obtain ⟨piece, rest, -, hpieces⟩ := Text.pieces_cons_of_ne hc cs
        have hhead : ((Text.pieces '/' (c :: cs)).map String.ofList).head? ≠ some "" := by
          rw [hpieces, List.map_cons, List.head?_cons, ne_eq, Option.some.injEq,
            ← String.toList_inj, String.toList_ofList]
          exact List.cons_ne_nil _ _
        rw [if_neg hhead]
        split
        · rename_i heq
          cases heq
        · rename_i heq
          cases heq
          exact absurd rfl hc
        · rfl

theorem resolve_eq_ok_iff {path : String} {p : List String} : files.resolve path = .ok p ↔
    Path.Acceptable path ∧ files.Passes (files.start path) (Path.names path).dropLast ∧
      follow (files.start path) (Path.names path) = p := by
  constructor
  · intro h
    have hnul : ∀ c ∈ path.toList, c.toNat ≠ 0 := by
      by_contra hnul
      rw [resolve, if_pos (by simpa using hnul)] at h
      cases h
    have hsize : path.utf8ByteSize ≤ maxPath := by
      by_contra hsize
      have hnone : ¬(path.toList.any fun c => c.toNat == 0) = true := by simpa using hnul
      rw [resolve, if_neg hnone, if_pos (Nat.not_le.mp hsize)] at h
      cases h
    have hne : path ≠ "" := by
      rintro rfl
      cases h
    rw [resolve_eq_walk hne hnul hsize, walk_eq_ok_iff] at h
    exact ⟨⟨hne, hnul, hsize, h.1⟩, h.2⟩
  · rintro ⟨hpath, hrest⟩
    rw [resolve_eq_walk hpath.ne_empty hpath.no_nul hpath.size]
    exact walk_eq_ok_iff.mpr ⟨hpath.names, hrest⟩

theorem isDirectory_iff {path : String} : files.isDirectory path = true ↔
    Path.Acceptable path ∧ files.Passes (files.start path) (Path.names path) := by
  have hentry (entry : Option Entry) :
      entry.any Entry.isDirectory = true ↔ entry = some .directory := by
    rcases entry with _ | _ | _ <;> simp [Entry.isDirectory]
  rw [passes_iff_dropLast (Path.names_ne_nil path), isDirectory]
  cases hresolve : files.resolve path with
  | error fault =>
      refine iff_of_false Bool.false_ne_true fun h => ?_
      rw [resolve_eq_ok_iff.mpr ⟨h.1, h.2.1, rfl⟩] at hresolve
      cases hresolve
  | ok place =>
      obtain ⟨hpath, hpasses, rfl⟩ := resolve_eq_ok_iff.mp hresolve
      simp only [hentry, hpath, hpasses, true_and]

end Files

/-! ### Paths above a path -/

theorem Path.Acceptable.of_isPrefix {path above : String} (h : Path.Acceptable path)
    (hnames : Path.names above <+: Path.names path) (hne : above ≠ "") : Path.Acceptable above := by
  obtain ⟨rest, rfl⟩ := Path.exists_eq_append hnames
  have hsize := h.size
  rw [String.utf8ByteSize_append] at hsize
  exact ⟨hne, fun c hc => h.no_nul c (by simp [hc]), by omega,
    fun name hname => h.names name (hnames.subset hname)⟩

namespace Files

variable {files : Files}

theorem start_congr {path above : String} (h : Path.names above <+: Path.names path) :
    files.start above = files.start path := by
  obtain ⟨rest, hrest⟩ := h
  rw [start, start, ← hrest, List.head?_append_of_ne_nil _ (Path.names_ne_nil above)]

/-- What begins like a path that can be followed is a directory. -/
theorem isDirectory_of_isPrefix {path above : String} {names : List String}
    (hpath : Path.Acceptable path) (hnames : names <+: Path.names path)
    (hpasses : files.Passes (files.start path) names) (habove : Path.names above <+: names)
    (hne : above ≠ "") : files.isDirectory above = true := by
  refine isDirectory_iff.mpr ⟨hpath.of_isPrefix (habove.trans hnames) hne, ?_⟩
  rw [start_congr (habove.trans hnames)]
  exact hpasses.of_isPrefix habove

@[simp] theorem isDirectory_root (files : Files) : files.isDirectory "/" = true := by
  refine isDirectory_iff.mpr ⟨⟨by decide, by simp, by decide, by decide⟩, ?_⟩
  have hnames : Path.names "/" = ["", ""] := by decide
  rw [hnames]
  exact ⟨rfl, rfl, trivial⟩

/-- Whoever can follow a path as far as its last name has passed the directory above it. -/
theorem isDirectory_parent {path above : String} (hpath : Path.Acceptable path)
    (hpasses : files.Passes (files.start path) (Path.names path).dropLast)
    (hparent : Path.parent? path = some above) (hne : above ≠ "") :
    files.isDirectory above = true := by
  rcases Path.names_parent hparent with rfl | rfl | hnames
  · exact absurd rfl hne
  · exact isDirectory_root files
  · exact isDirectory_of_isPrefix hpath (List.dropLast_prefix _) hpasses hnames hne

theorem dropSlashes_cases (path : String) : path = "" ∨ dropSlashes path = "/" ∨
    ∃ c cs slashes, dropSlashes path = String.ofList (c :: cs) ∧
      path.toList = c :: cs ++ slashes ∧ ∀ d ∈ slashes, d = '/' := by
  have hpath := List.takeWhile_append_dropWhile (p := (· == '/')) (l := path.toList.reverse)
  unfold dropSlashes
  cases hrest : path.toList.reverse.dropWhile (· == '/') with
  | nil => by_cases hempty : path = "" <;> simp [hempty]
  | cons d ds =>
      obtain ⟨c, cs, hcs⟩ := List.exists_cons_of_ne_nil (show (d :: ds).reverse ≠ [] by simp)
      refine .inr (.inr ⟨c, cs, (path.toList.reverse.takeWhile (· == '/')).reverse,
        congrArg String.ofList hcs, ?_, fun d hd => ?_⟩)
      · rw [← hcs, ← List.reverse_append, ← hrest, hpath, List.reverse_reverse]
      · simpa using List.mem_takeWhile_imp (List.mem_reverse.mp hd)

theorem dropSlashes_ne_empty {path : String} (hne : path ≠ "") : dropSlashes path ≠ "" := by
  rcases dropSlashes_cases path with hempty | hroot | ⟨c, cs, _, hcs, -⟩
  · exact absurd hempty hne
  · rw [hroot]
    decide
  · rw [hcs, ne_eq, ← String.toList_inj, String.toList_ofList]
    exact List.cons_ne_nil _ _

theorem names_dropSlashes {path : String} (hne : path ≠ "") : dropSlashes path = "/" ∨
    Path.names (dropSlashes path) <+: Path.names path := by
  rcases dropSlashes_cases path with hempty | hroot | ⟨c, cs, slashes, hcs, hpath, hslashes⟩
  · exact absurd hempty hne
  · exact .inl hroot
  · refine .inr ?_
    rw [hcs, Path.names, Path.names, String.toList_ofList, hpath]
    cases slashes with
    | nil => rw [List.append_nil]
    | cons d slashes =>
        obtain rfl := hslashes d (List.mem_cons_self ..)
        rw [Text.pieces_append_cons, List.map_append]
        exact List.prefix_append ..

theorem isDirectory_dropSlashes {path : String} (h : files.isDirectory path = true) :
    files.isDirectory (dropSlashes path) = true := by
  obtain ⟨hpath, hpasses⟩ := isDirectory_iff.mp h
  have hne := dropSlashes_ne_empty hpath.ne_empty
  rcases names_dropSlashes hpath.ne_empty with hroot | hnames
  · rw [hroot]
    exact isDirectory_root files
  · exact isDirectory_of_isPrefix hpath (List.prefix_refl _) hpasses hnames hne

/-- A directory that is there is not made again. -/
theorem makeDirectory_of_isDirectory {path : String} (h : files.isDirectory path = true) :
    files.makeDirectory path = .error .alreadyExists := by
  obtain ⟨hpath, hpasses⟩ := isDirectory_iff.mp (isDirectory_dropSlashes h)
  obtain ⟨hfirst, hlast⟩ := (passes_iff_dropLast (Path.names_ne_nil _)).mp hpasses
  rw [makeDirectory, resolve_eq_ok_iff.mpr ⟨hpath, hfirst, rfl⟩]
  simp only [hlast]

/-! ### The way to a path -/

/-- The places that a path passes before the one it leads to. -/
def way (files : Files) (path : String) : List (List String) :=
  (Path.names path).dropLast.scanl step (files.start path)

theorem follow_mem_scanl {place names first : List String} (h : first <+: names) :
    follow place first ∈ names.scanl step place := by
  induction first generalizing place names with
  | nil => cases names <;> simp [follow]
  | cons name first ih =>
      obtain ⟨rest, rfl⟩ := h
      rw [List.cons_append, List.scanl_cons]
      exact List.mem_cons_of_mem _ (ih ⟨rest, rfl⟩)

theorem find?_resolve_root {place : List String} (h : files.resolve "/" = .ok place) :
    files.find? place = some .directory := by
  obtain ⟨-, -, rfl⟩ := resolve_eq_ok_iff.mp h
  obtain ⟨-, hpasses⟩ := isDirectory_iff.mp (isDirectory_root files)
  exact ((passes_iff_dropLast (Path.names_ne_nil _)).mp hpasses).2

/-- A directory that is made for a path above another lies on the way to the other. -/
theorem mem_way_of_makeDirectory {path above : String} {made : Files}
    (habove : above = "/" ∨ Path.names above <+: (Path.names path).dropLast)
    (h : files.makeDirectory above = .ok made) :
    ∃ place ∈ files.way path, files.find? place = none ∧ made = files.put place .directory := by
  unfold makeDirectory at h
  cases hresolve : files.resolve (dropSlashes above) with
  | error fault => simp [hresolve] at h
  | ok place =>
      cases hfind : files.find? place with
      | some entry => simp [hresolve, hfind] at h
      | none =>
          simp only [hresolve, hfind, Except.ok.injEq] at h
          refine ⟨place, ?_, hfind, h.symm⟩
          obtain ⟨hslashes, -, hplace⟩ := resolve_eq_ok_iff.mp hresolve
          have hnames : Path.names (dropSlashes above) <+: (Path.names path).dropLast := by
            have hroot : dropSlashes above ≠ "/" := by
              intro hroot
              rw [hroot] at hresolve
              rw [find?_resolve_root hresolve] at hfind
              cases hfind
            have hne : above ≠ "" := by
              rintro rfl
              exact hslashes.ne_empty rfl
            rcases habove with rfl | habove
            · exact absurd rfl hroot
            · exact ((names_dropSlashes hne).resolve_left hroot).trans habove
          rw [← hplace, start_congr (hnames.trans (List.dropLast_prefix _))]
          exact follow_mem_scanl hnames

end Files

end LayoutCompose
