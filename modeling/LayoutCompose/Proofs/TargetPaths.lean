import LayoutCompose.Compose.View
import LayoutCompose.Document.Attributes
import LayoutCompose.Proofs.FunctionNames
import LayoutCompose.Proofs.Places
import Mathlib.Data.List.DropRight

/-!
Where the code of a layout goes, and the name it gets there.

A path is known from its head and from its pieces up to the last one that means something. A name
that is put into a directory becomes the last piece, and the path above it has the head and the
pieces of the directory; so it has the same components, and even the same text if the directory is
itself a path above another. The stem of a name with an extension is what the extension was put
behind. All that is said about targets follows from these facts.
-/

namespace LayoutCompose.Path

/-! ### Pieces that mean nothing -/

/-- Pieces that mean nothing: those without a character, and single dots. -/
def isIdle (p : List Char) : Bool :=
  p == [] || p == ['.']

theorem solid_eq (ps : List (List Char)) : solid ps = ps.rdropWhile isIdle := rfl

theorem solid_append_of_idle {p : List Char} (h : isIdle p = true) (ps : List (List Char)) :
    solid (ps ++ [p]) = solid ps := by
  rw [solid_eq, List.rdropWhile_concat_pos _ _ _ h, solid_eq]

theorem solid_append_of_not_idle {p : List Char} (h : isIdle p = false) (ps : List (List Char)) :
    solid (ps ++ [p]) = ps ++ [p] := by
  rw [solid_eq, List.rdropWhile_concat_neg]
  simp [h]

@[simp] theorem solid_solid (ps : List (List Char)) : solid (solid ps) = solid ps :=
  List.rdropWhile_idempotent isIdle ps

theorem isIdle_of_mem_getLast?_solid {ps : List (List Char)} {p : List Char}
    (h : (solid ps).getLast? = some p) : isIdle p = false := by
  obtain ⟨qs, hqs⟩ := List.getLast?_eq_some_iff.mp h
  have hne : solid ps ≠ [] := by simp [hqs]
  have hlast := List.rdropWhile_last_not isIdle ps hne
  simpa [← solid_eq, hqs] using hlast

/-- The pieces at the end are not missed where all that mean nothing are left out. -/
@[simp] theorem filter_solid (ps : List (List Char)) :
    (solid ps).filter (fun p => !isIdle p) = ps.filter fun p => !isIdle p := by
  induction ps using List.reverseRecOn with
  | nil => rfl
  | append_singleton ps p ih =>
      cases hp : isIdle p with
      | true => simp [solid_append_of_idle hp, ih, hp]
      | false => rw [solid_append_of_not_idle hp]

/-! ### Head and pieces -/

/-- What a path begins with: a slash, a dot for the current directory, or nothing. -/
def head (path : String) : List Char :=
  (splitHead path.toList).1

def ofPieces (head : List Char) (ps : List (List Char)) : String :=
  String.ofList (head ++ List.intercalate ['/'] ps)

/-- A path without the pieces at its end that mean nothing. -/
def tidy (path : String) : String :=
  ofPieces (head path) (pieces path)

theorem intercalate_isPrefix {cs : List Char} {ps : List (List Char)}
    (h : ps <+: Text.pieces '/' cs) : List.intercalate ['/'] ps <+: cs := by
  obtain ⟨rest, hrest⟩ := h
  have hcs := Text.intercalate_pieces '/' cs
  by_cases hps : ps = []
  · rw [hps]
    exact List.nil_prefix
  cases rest with
  | nil => rw [← hcs, ← hrest, List.append_nil]
  | cons p rest =>
      rw [← hcs, ← hrest, Text.intercalate_append_cons _ hps]
      exact List.prefix_append _ _

/-- The beginning of a path without a head has none either, unless it is cut to a single dot. -/
theorem splitHead_of_isPrefix {cs ds : List Char} (hcs : splitHead cs = ([], cs))
    (hds : ds <+: cs) (hdot : ds ≠ ['.']) : splitHead ds = ([], ds) := by
  obtain ⟨rest, rfl⟩ := hds
  rcases splitHead_cases ds with ⟨es, rfl, -⟩ | ⟨hds, -⟩ | ⟨es, rfl, -⟩ | hsplit
  · cases hcs
  · exact absurd hds hdot
  · cases hcs
  · exact hsplit

/-- Pieces that begin those of a path, and end with one that means something, are split off again
from the head of the path. -/
theorem splitHead_ofPieces {cs : List Char} {ps : List (List Char)}
    (hps : ps <+: Text.pieces '/' (splitHead cs).2) (hsolid : solid ps = ps) :
    splitHead ((splitHead cs).1 ++ List.intercalate ['/'] ps) =
      ((splitHead cs).1, List.intercalate ['/'] ps) := by
  rcases splitHead_cases cs with ⟨ds, -, hcs⟩ | ⟨-, hcs⟩ | ⟨ds, -, hcs⟩ | hcs <;>
    rw [hcs] at hps ⊢ <;> dsimp only at hps ⊢
  · rfl
  · rcases eq_of_isPrefix_cons hps with rfl | ⟨qs, rfl, hqs⟩
    · rfl
    · obtain rfl := List.prefix_nil.mp hqs
      cases hsolid
  · rw [Text.pieces, if_pos rfl] at hps
    rcases eq_of_isPrefix_cons hps with rfl | ⟨qs, rfl, -⟩
    · rfl
    · cases qs with
      | nil => cases hsolid
      | cons q qs => rfl
  · rw [List.nil_append]
    refine splitHead_of_isPrefix hcs (intercalate_isPrefix hps) ?_
    intro hdot
    have hslash : ∀ p ∈ ps, '/' ∉ p := fun p hp => Text.not_mem_of_mem_pieces (hps.subset hp)
    have hne : ps ≠ [] := by
      rintro rfl
      cases hdot
    have hpieces := Text.pieces_intercalate hne hslash
    rw [hdot] at hpieces
    subst hpieces
    cases hsolid

theorem ofPieces_head_pieces {path : String} {ps : List (List Char)}
    (hps : ps <+: Text.pieces '/' (splitHead path.toList).2) (hsolid : solid ps = ps) :
    head (ofPieces (head path) ps) = head path ∧ pieces (ofPieces (head path) ps) = ps := by
  have hsplit := splitHead_ofPieces hps hsolid
  rw [head, pieces, ofPieces, String.toList_ofList, head, hsplit]
  refine ⟨rfl, ?_⟩
  by_cases hne : ps = []
  · rw [hne]
    rfl
  · have hslash : ∀ p ∈ ps, '/' ∉ p := fun p hp => Text.not_mem_of_mem_pieces (hps.subset hp)
    rw [Text.pieces_intercalate hne hslash, hsolid]

theorem tidy_head_pieces (path : String) :
    head (tidy path) = head path ∧ pieces (tidy path) = pieces path :=
  ofPieces_head_pieces (solid_isPrefix _) (solid_solid _)

/-- A path above another is tidy. -/
theorem tidy_of_parent? {path above : String} (h : parent? path = some above) :
    tidy above = above := by
  unfold parent? at h
  dsimp only at h
  split at h
  · split at h
    · obtain rfl := Option.some.inj h
      rfl
    · cases h
  · obtain rfl := Option.some.inj h
    have hprefix : solid (pieces path).dropLast <+:
        Text.pieces '/' (splitHead path.toList).2 :=
      (solid_isPrefix _).trans ((List.dropLast_prefix _).trans (solid_isPrefix _))
    obtain ⟨hhead, hpieces⟩ := ofPieces_head_pieces hprefix (solid_solid _)
    change tidy (ofPieces (head path) _) = ofPieces (head path) _
    rw [tidy, hhead, hpieces]

/-! ### Components -/

/-- The components of a path: its head, and the pieces that mean something. -/
def components (path : String) : List (List Char) :=
  (if head path = [] then [] else [head path]) ++
    (Text.pieces '/' (splitHead path.toList).2).filter fun p => !isIdle p

theorem components_congr {path other : String} (hhead : head path = head other)
    (hpieces : pieces path = pieces other) : components path = components other := by
  rw [components, components, ← filter_solid, ← pieces, hhead, hpieces, pieces, filter_solid]

@[simp] theorem components_tidy (path : String) : components (tidy path) = components path :=
  components_congr (tidy_head_pieces path).1 (tidy_head_pieces path).2

example : tidy "./a//b/./" = "./a//b" ∧ components "./a//b" = [['.'], ['a'], ['b']] := by
  decide +kernel

/-! ### Names in directories -/

/-- More behind a slash does not change the head of a path that is not empty. -/
theorem splitHead_append_slash {cs : List Char} (hne : cs ≠ []) (ds : List Char) :
    splitHead (cs ++ '/' :: ds) = ((splitHead cs).1, (splitHead cs).2 ++ '/' :: ds) := by
  rcases splitHead_cases cs with ⟨es, rfl, -⟩ | ⟨rfl, -⟩ | ⟨es, rfl, -⟩ | hcs
  · rfl
  · rfl
  · rfl
  · rw [hcs]
    obtain ⟨c, cs, rfl⟩ := List.exists_cons_of_ne_nil hne
    rcases splitHead_cases (c :: cs ++ '/' :: ds) with ⟨es, heq, -⟩ | ⟨heq, -⟩ | ⟨es, heq, -⟩ |
      hsplit
    · rw [List.cons_append, List.cons.injEq] at heq
      obtain ⟨rfl, -⟩ := heq
      cases hcs
    · simp at heq
    · rw [List.cons_append, List.cons.injEq] at heq
      obtain ⟨rfl, htail⟩ := heq
      cases cs with
      | nil => cases hcs
      | cons d cs =>
          rw [List.cons_append, List.cons.injEq] at htail
          obtain ⟨rfl, -⟩ := htail
          cases hcs
    · exact hsplit

theorem splitHead_of_not_mem {cs : List Char} (hslash : '/' ∉ cs) (hdot : cs ≠ ['.']) :
    splitHead cs = ([], cs) := by
  rcases splitHead_cases cs with ⟨ds, rfl, -⟩ | ⟨hcs, -⟩ | ⟨ds, rfl, -⟩ | hcs
  · simp at hslash
  · exact absurd hcs hdot
  · simp at hslash
  · exact hcs

structure IsFileName (name : String) : Prop where
  idle : isIdle name.toList = false
  slash : '/' ∉ name.toList
  above : name ≠ ".."

variable {name : String}

/-- In a directory, a name is the last piece, behind the head and the pieces of the directory. -/
theorem join_head_pieces (hname : IsFileName name) (directory : String) :
    head (join directory name) = head directory ∧
      ∃ ps, pieces (join directory name) = ps ++ [name.toList] ∧ solid ps = pieces directory := by
  have hpiece : Text.pieces '/' name.toList = [name.toList] := Text.pieces_of_not_mem hname.slash
  have hkeep (ps : List (List Char)) : solid (ps ++ [name.toList]) = ps ++ [name.toList] :=
    solid_append_of_not_idle hname.idle ps
  have hnone : isIdle [] = true := rfl
  unfold join
  split
  · rename_i hdirectory
    by_cases hempty : directory = ""
    · have hdot : name.toList ≠ ['.'] := fun h => absurd (h ▸ hname.idle) (by decide)
      have hsplit := splitHead_of_not_mem hname.slash hdot
      subst hempty
      rw [String.empty_append, head, pieces, hsplit, hpiece]
      exact ⟨rfl, [], hkeep [], rfl⟩
    · obtain ⟨cs, hcs⟩ := List.getLast?_eq_some_iff.mp (hdirectory.resolve_left hempty)
      rw [head, pieces, head, pieces, String.toList_append, hcs, List.append_assoc,
        List.singleton_append]
      cases cs with
      | nil =>
          change _ = ['/'] ∧ _
          refine ⟨rfl, [], ?_, rfl⟩
          change solid (Text.pieces '/' name.toList) = _
          rw [hpiece]
          exact hkeep []
      | cons c cs =>
          rw [splitHead_append_slash (List.cons_ne_nil c cs),
            splitHead_append_slash (List.cons_ne_nil c cs)]
          refine ⟨rfl, Text.pieces '/' (splitHead (c :: cs)).2, ?_, ?_⟩
          · rw [Text.pieces_append_cons, hpiece, hkeep]
          · rw [Text.pieces_append_cons]
            exact (solid_append_of_idle hnone _).symm
  · rename_i hdirectory
    have hne : directory.toList ≠ [] := fun h => hdirectory (.inl (String.toList_eq_nil_iff.mp h))
    have htext : (directory ++ "/" ++ name).toList = directory.toList ++ '/' :: name.toList := by
      rw [String.toList_append, String.toList_append, List.append_assoc]
      rfl
    rw [head, pieces, head, pieces, htext, splitHead_append_slash hne]
    refine ⟨rfl, Text.pieces '/' (splitHead directory.toList).2, ?_, rfl⟩
    rw [Text.pieces_append_cons, hpiece, hkeep]

theorem fileName?_join (hname : IsFileName name) (directory : String) :
    fileName? (join directory name) = some name.toList := by
  obtain ⟨-, ps, hpieces, -⟩ := join_head_pieces hname directory
  have habove : name.toList ≠ ['.', '.'] := fun h => hname.above (String.toList_inj.mp h)
  rw [fileName?, hpieces, List.getLast?_concat]
  simp [habove]

/-- The path above a name in a directory is the directory. -/
theorem parent?_join (hname : IsFileName name) (directory : String) :
    parent? (join directory name) = some (tidy directory) := by
  obtain ⟨hhead, ps, hpieces, hps⟩ := join_head_pieces hname directory
  have hne : (ps ++ [name.toList]).isEmpty = false := by simp
  rw [parent?, hpieces, hne, List.dropLast_concat, hps, ← head, hhead]
  rfl

/-! ### Stems -/

theorem dropExtension_ne_nil {cs : List Char} (h : cs ≠ []) : dropExtension cs ≠ [] := by
  unfold dropExtension
  split
  · simp
  · exact h

/-- An extension without a dot is dropped from behind what it was put. -/
theorem dropExtension_append {cs extension : List Char} (hne : cs ≠ []) (hdot : '.' ∉ extension) :
    dropExtension (cs ++ '.' :: extension) = cs := by
  have hrun : ∀ c ∈ extension.reverse, (c != '.') = true := by
    intro c hc
    have hmem : c ∈ extension := List.mem_reverse.mp hc
    simpa using fun h : c = '.' => hdot (h ▸ hmem)
  have hdrop : (cs ++ '.' :: extension).reverse.dropWhile (· != '.') = '.' :: cs.reverse := by
    rw [List.reverse_append, List.reverse_cons, List.append_assoc, List.singleton_append]
    exact (Text.span_append hrun (by simp)).2
  obtain ⟨d, ds, hds⟩ := List.exists_cons_of_ne_nil (List.reverse_ne_nil_iff.mpr hne)
  rw [dropExtension, hdrop, hds]
  dsimp only
  rw [← hds, List.reverse_reverse]

theorem stem_ne_empty (path : String) : stem path ≠ "" := by
  unfold stem
  split
  · rename_i name hname
    have hidle := isIdle_of_mem_getLast?_solid (Option.filter_eq_some_iff.mp hname).1
    have hne : name ≠ [] := fun h => absurd (h ▸ hidle) (by decide)
    simpa using dropExtension_ne_nil hne
  · decide

/-- A name that is put together of a stem and an extension. -/
structure IsExtended (s name : String) : Prop where
  stem_ne : s ≠ ""
  slash : '/' ∉ name.toList
  extension : ∃ cs, cs ≠ [] ∧ '.' ∉ cs ∧ name.toList = s.toList ++ '.' :: cs

theorem IsExtended.isFileName {s : String} (h : IsExtended s name) : IsFileName name := by
  obtain ⟨cs, hcs, -, htext⟩ := h.extension
  have hlength : 3 ≤ name.toList.length := by
    have hs : 0 < s.toList.length := List.length_pos_iff.mpr (by simpa using h.stem_ne)
    have hextension : 0 < cs.length := List.length_pos_iff.mpr hcs
    rw [htext, List.length_append, List.length_cons]
    omega
  refine ⟨?_, h.slash, ?_⟩
  · by_contra hidle
    rcases Bool.or_eq_true_iff.mp (eq_true_of_ne_false hidle) with hnil | hdot
    · simp [eq_of_beq hnil] at hlength
    · simp [eq_of_beq hdot] at hlength
  · rintro rfl
    exact absurd hlength (by decide)

/-- The stem of an extended name in a directory is what the extension was put behind. -/
theorem IsExtended.stem_join {s : String} (h : IsExtended s name) (directory : String) :
    stem (join directory name) = s := by
  obtain ⟨cs, -, hdot, htext⟩ := h.extension
  have hs : s.toList ≠ [] := by simpa using h.stem_ne
  rw [stem, fileName?_join h.isFileName]
  dsimp only
  rw [htext, dropExtension_append hs hdot, String.ofList_toList]

/-! ### Targets -/

theorem isExtended_stem (input : String) : IsExtended (stem input) (stem input ++ ".kt") := by
  have htext : (stem input ++ ".kt").toList = (stem input).toList ++ ['.', 'k', 't'] := by
    rw [String.toList_append]
    rfl
  refine ⟨stem_ne_empty input, ?_, ['k', 't'], by simp, by simp, htext⟩
  rw [htext, List.mem_append, not_or]
  exact ⟨slash_not_mem_stem input, by simp⟩

theorem isExtended_layout {n : String} (h : Text.isName n.toList = true) :
    IsExtended n (n ++ ".xml") := by
  have htext : (n ++ ".xml").toList = n.toList ++ ['.', 'x', 'm', 'l'] := by
    rw [String.toList_append]
    rfl
  refine ⟨?_, ?_, ['x', 'm', 'l'], by simp, by simp, htext⟩
  · rintro rfl
    cases h
  · rw [htext, List.mem_append, not_or]
    refine ⟨fun hslash => ?_, by simp⟩
    exact absurd (Kotlin.isNameChar_of_isName h '/' hslash) (by decide)

@[simp] theorem stem_target (directory : Option String) (input : String) :
    stem (target directory input) = stem input :=
  (isExtended_stem input).stem_join _

@[simp] theorem parent?_target (directory : Option String) (input : String) :
    parent? (target directory input) =
      some (tidy (directory.getD ((parent? input).getD ""))) :=
  parent?_join (isExtended_stem input).isFileName _

@[simp] theorem tidy_getD_parent? (input : String) :
    tidy ((parent? input).getD "") = (parent? input).getD "" := by
  cases hparent : parent? input with
  | none => rfl
  | some above => exact tidy_of_parent? hparent

@[simp] theorem target_target (input : String) :
    target none (target none input) = target none input := by
  rw [target, parent?_target, stem_target, Option.getD_none, Option.getD_none, Option.getD_some,
    tidy_getD_parent?]
  rfl

end LayoutCompose.Path

namespace LayoutCompose

/-! ### Inclusions -/

theorem Document.Attributes.view_inclusion {attrs : Attributes} {f : Frame} {s : String}
    {layout : Reference} (hframe : attrs.inclusionFrame = .ok f)
    (hlookup : attrs.entries.lookup "layout" = some s)
    (hread : Reference.readLayout s = .ok layout) :
    attrs.view .inclusion = .ok (.control f (.inclusion layout)) := by
  have hget : attrs.get "layout" Reference.readLayout = .ok (some layout) := by
    rw [get, hlookup]
    dsimp only
    rw [hread]
  rw [view, frameOf, if_pos rfl, hframe]
  change (attrs.get "layout" Reference.readLayout >>= fun value =>
    attrs.require "layout" value >>= fun layout =>
      pure (View.control f (.inclusion layout))) = _
  rw [hget]
  rfl

theorem Compose.viewCode_inclusion {f : Frame} (hshown : f.visibility ≠ .gone) (scope : Scope)
    (layout : Reference) : (viewCode scope (.control f (.inclusion layout))).result =
      .ok [.line (Kotlin.functionName layout.name ++ "()")] := by
  rw [viewCode, if_neg hshown, Noted.result_bind, controlLine, inclusionLine_result]
  rfl

namespace Path

theorem screenName_layout {n : String} (h : Text.isName n.toList = true) (directory : String) :
    screenName (join directory (n ++ ".xml")) = Kotlin.functionName n := by
  rw [screenName, (isExtended_layout h).stem_join]

/-- A target has the stem of its input and lies in the directory that is asked for, or else in that
of the input. It is its own target, and its function has the name of the input's. The function for a
layout in any directory is the one that is called where the layout is included. -/
theorem target_stable :
    (∀ directory input,
      (fileName? (target directory input) = some ((stem input).toList ++ ".kt".toList) ∧
        stem (target directory input) = stem input ∧
        (fileName? input = none → stem (target directory input) = "layout")) ∧
      (∃ above, parent? (target directory input) = some above ∧
        components above = components (directory.getD ((parent? input).getD ""))) ∧
      screenName (target directory input) = screenName input) ∧
    (∀ input, target none (target none input) = target none input) ∧
    ∀ s layout, Reference.readLayout s = .ok layout → ∀ (attrs : Document.Attributes) (f : Frame),
      attrs.entries.lookup "layout" = some s → attrs.inclusionFrame = .ok f →
      attrs.view .inclusion = .ok (.control f (.inclusion layout)) ∧
      (f.visibility ≠ .gone → ∀ scope directory,
        (Compose.viewCode scope (.control f (.inclusion layout))).result =
          .ok [.line (screenName (join directory (layout.name ++ ".xml")) ++ "()")]) := by
  refine ⟨fun directory input => ⟨⟨?_, stem_target directory input, fun hnone => ?_⟩, ?_, ?_⟩,
    target_target, fun s layout hread attrs f hlookup hframe => ⟨?_, fun hshown scope dir => ?_⟩⟩
  · rw [target, fileName?_join (isExtended_stem input).isFileName, String.toList_append]
  · rw [stem_target, stem, hnone]
  · exact ⟨_, parent?_target directory input, components_tidy _⟩
  · rw [screenName, stem_target, screenName]
  · exact Document.Attributes.view_inclusion hframe hlookup hread
  · rw [screenName_layout (Reference.isOf_of_readLayout hread).name]
    exact Compose.viewCode_inclusion hshown scope layout

/-- A path without a name, and a layout of the framework that is included under an identifier. -/
theorem target_stable_unnamed :
    fileName? "a//.." = none ∧ stem (target (some "b/.") "a//..") = "layout" ∧
    ∃ layout f, Reference.readLayout "@android:layout/row_2" = .ok layout ∧
      (⟨"include", [("id", "@+id/a"), ("layout", "@android:layout/row_2")]⟩ :
        Document.Attributes).inclusionFrame = .ok f ∧ f.visibility ≠ .gone ∧
      (⟨"include", [("id", "@+id/a"), ("layout", "@android:layout/row_2")]⟩ :
        Document.Attributes).view .inclusion = .ok (.control f (.inclusion layout)) ∧
      (Compose.viewCode .top (.control f (.inclusion layout))).result =
        .ok [.line (screenName (join "res/layout" (layout.name ++ ".xml")) ++ "()")] := by
  have hnone : fileName? "a//.." = none := by decide +kernel
  have hread : Reference.readLayout "@android:layout/row_2" = .ok ⟨true, "layout", "row_2"⟩ := by
    decide +kernel
  have hframe : (⟨"include", [("id", "@+id/a"), ("layout", "@android:layout/row_2")]⟩ :
      Document.Attributes).inclusionFrame = .ok { id := some "a" } := by decide +kernel
  have hview := target_stable.2.2 _ _ hread _ _ rfl hframe
  exact ⟨hnone, (target_stable.1 (some "b/.") "a//..").1.2.2 hnone, _, _, hread, hframe,
    by decide, hview.1, hview.2 (by decide) .top "res/layout"⟩

end Path

end LayoutCompose
