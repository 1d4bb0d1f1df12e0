import LayoutCompose.Proofs.BatchEffects
import Mathlib.Data.List.Pairwise

/-!
Inputs of a batch that stay out of each other's way.

If the directory for the code is there already, no two inputs have the same target and no target is
another input, then no turn of a batch changes what a later one finds: no directory is made, so
every path leads where it led before, and the inputs still to come are as they were. Each of them is
converted as in a batch by itself, and the order of the inputs does not matter.
-/

namespace LayoutCompose

/-- Inputs that stay out of each other's way: the directory is there, the targets are different
places, and none of them is the place of another input. -/
structure Files.Separate (files : Files) (options : Options) (inputs : List String) : Prop where
  directory : ∀ directory ∈ options.directory, files.isDirectory directory = true
  targets : inputs.Pairwise fun a b => ∀ place,
    files.resolve (Path.target options.directory a) = .ok place →
      files.resolve (Path.target options.directory b) ≠ .ok place
  inputs : ∀ a ∈ inputs, ∀ b ∈ inputs, a ≠ b → ∀ place,
    files.resolve (Path.target options.directory a) = .ok place → files.resolve b ≠ .ok place

/-! ### Where no directory has to be made -/

namespace Files

variable {files : Files} {options : Options} {input : String}

theorem code?_of_resolve_error {fault : FileFault} (h : files.resolve input = .error fault) :
    files.code? options input = none := by
  rw [code?, read, h]

/-- What lies above the target of a readable input is there. -/
theorem isDirectory_parent_target {code above : String}
    (hdirectory : ∀ directory ∈ options.directory, files.isDirectory directory = true)
    (hcode : files.code? options input = some code)
    (habove : Path.parent? (Path.target options.directory input) = some above)
    (hne : above ≠ "") : files.isDirectory above = true := by
  have hslash : '/' ∉ (Path.stem input ++ ".kt").toList := by
    rw [String.toList_append, List.mem_append, not_or]
    exact ⟨Path.slash_not_mem_stem input, by decide⟩
  have hin : options.directory.getD ((Path.parent? input).getD "") = "" ∨
      files.isDirectory (options.directory.getD ((Path.parent? input).getD "")) = true := by
    cases hoption : options.directory with
    | some directory => exact .inr (hdirectory directory hoption)
    | none =>
        cases hparent : Path.parent? input with
        | none => exact .inl rfl
        | some parent =>
            obtain ⟨place, hplace⟩ : ∃ place, files.resolve input = .ok place := by
              cases hresolve : files.resolve input with
              | ok place => exact ⟨place, rfl⟩
              | error fault => simp [code?_of_resolve_error hresolve] at hcode
            obtain ⟨hpath, hpasses, -⟩ := resolve_eq_ok_iff.mp hplace
            by_cases hempty : parent = ""
            · exact .inl hempty
            · exact .inr (isDirectory_parent hpath hpasses hparent hempty)
  rw [Path.target] at habove
  generalize options.directory.getD ((Path.parent? input).getD "") = directory at hin habove
  rcases Path.names_parent habove with hempty | rfl | hnames
  · exact absurd hempty hne
  · exact isDirectory_root files
  replace hnames := hnames.trans (Path.dropLast_names_join hslash)
  rcases hin with rfl | hin
  · obtain ⟨rest, hrest⟩ := Path.exists_eq_append hnames
    exact absurd (String.append_eq_empty_iff.mp hrest.symm).1 hne
  · obtain ⟨hpath, hpasses⟩ := isDirectory_iff.mp hin
    exact isDirectory_of_isPrefix hpath (List.prefix_refl _) hpasses hnames hne

/-- The code of an input belongs to a place, and a file can be opened for it there. -/
structure Writes (files : Files) (options : Options) (input : String) (place : List String)
    (code : String) : Prop where
  toStdout : options.toStdout = false
  code : files.code? options input = some code
  target : files.resolve (Path.target options.directory input) = .ok place
  free : files.find? place ≠ some .directory

def leadsTo? (files : Files) (path : String) : Option Entry :=
  (files.resolve path).toOption.bind files.find?

/-- Two trees have the same directories, and writing to them breaks off alike. -/
structure SameDirectories (files now : Files) : Prop where
  here : now.here = files.here
  breaks? : now.breaks? = files.breaks?
  directories : ∀ p, now.find? p = some .directory ↔ files.find? p = some .directory

namespace SameDirectories

variable {now : Files}

theorem refl (files : Files) : files.SameDirectories files := ⟨rfl, rfl, fun _ => Iff.rfl⟩

theorem trans {after : Files} (h : files.SameDirectories now)
    (h' : now.SameDirectories after) : files.SameDirectories after :=
  ⟨h'.here.trans h.here, h'.breaks?.trans h.breaks?,
    fun p => (h'.directories p).trans (h.directories p)⟩

theorem put {place : List String} (h : files.find? place ≠ some .directory)
    (contents : ByteArray) : files.SameDirectories (files.put place (.file contents)) := by
  refine ⟨rfl, rfl, fun p => ?_⟩
  rw [find?_put files (ne_root_of_find? h)]
  by_cases hp : p = place
  · subst hp
    simp [h]
  · rw [if_neg hp]

theorem keepsDirectories (h : files.SameDirectories now) : files.KeepsDirectories now :=
  ⟨h.here, h.breaks?, fun p => (h.directories p).mpr⟩

theorem resolve_eq_ok_iff (h : files.SameDirectories now) {path : String} {place : List String} :
    now.resolve path = .ok place ↔ files.resolve path = .ok place :=
  ⟨KeepsDirectories.resolve ⟨h.here.symm, h.breaks?.symm, fun p => (h.directories p).mp⟩,
    h.keepsDirectories.resolve⟩

/-- A path that leads nowhere goes on leading nowhere, perhaps for another reason. -/
theorem exists_resolve_error (h : files.SameDirectories now) {path : String} {fault : FileFault}
    (hresolve : files.resolve path = .error fault) :
    ∃ fault', now.resolve path = .error fault' := by
  cases hnow : now.resolve path with
  | error fault' => exact ⟨fault', rfl⟩
  | ok place =>
      rw [h.resolve_eq_ok_iff.mp hnow] at hresolve
      cases hresolve

theorem leadsTo?_eq {other : Files} {path : String} (h : files.SameDirectories now)
    (h' : files.SameDirectories other)
    (hfind : ∀ place, files.resolve path = .ok place → now.find? place = other.find? place) :
    now.leadsTo? path = other.leadsTo? path := by
  cases hresolve : files.resolve path with
  | ok place =>
      rw [leadsTo?, leadsTo?, h.resolve_eq_ok_iff.mpr hresolve, h'.resolve_eq_ok_iff.mpr hresolve]
      exact hfind place hresolve
  | error fault =>
      obtain ⟨fault', hnow⟩ := h.exists_resolve_error hresolve
      obtain ⟨fault'', hother⟩ := h'.exists_resolve_error hresolve
      rw [leadsTo?, leadsTo?, hnow, hother]
      rfl

theorem isDirectory_of (h : files.SameDirectories now) {path : String}
    (hpath : files.isDirectory path = true) : now.isDirectory path = true := by
  obtain ⟨hacceptable, hpasses⟩ := isDirectory_iff.mp hpath
  refine isDirectory_iff.mpr ⟨hacceptable, ?_⟩
  rw [h.keepsDirectories.start_eq]
  exact h.keepsDirectories.passes hpasses

/-- An input whose place is as it was has the code that it had. -/
theorem code?_eq (h : files.SameDirectories now)
    (hplace : ∀ place, files.resolve input = .ok place → now.find? place = files.find? place) :
    now.code? options input = files.code? options input := by
  cases hresolve : files.resolve input with
  | ok place =>
      rw [code?, code?, read, read, h.resolve_eq_ok_iff.mpr hresolve, hresolve]
      simp only [hplace place hresolve]
  | error fault =>
      obtain ⟨fault', hnow⟩ := h.exists_resolve_error hresolve
      rw [code?_of_resolve_error hresolve, code?_of_resolve_error hnow]

theorem writes_iff (h : files.SameDirectories now) {place : List String} {code : String}
    (hplace : ∀ place, files.resolve input = .ok place → now.find? place = files.find? place) :
    now.Writes options input place code ↔ files.Writes options input place code := by
  have hcode : now.code? options input = files.code? options input := h.code?_eq hplace
  constructor
  · rintro ⟨hstdout, hnow, htarget, hfree⟩
    exact ⟨hstdout, hcode ▸ hnow, h.resolve_eq_ok_iff.mp htarget, mt (h.directories _).mpr hfree⟩
  · rintro ⟨hstdout, hfiles, htarget, hfree⟩
    exact ⟨hstdout, hcode ▸ hfiles, h.resolve_eq_ok_iff.mpr htarget, mt (h.directories _).mp hfree⟩

end SameDirectories

end Files

namespace Batch

theorem run_makeDirectories_of_isDirectory {world : World} {path : String} (above : List String)
    (h : path = "" ∨ world.files.isDirectory path = true) :
    (makeDirectories World.host (path :: above)).run world = (.ok (), world) := by
  rw [makeDirectories]
  by_cases hempty : path = ""
  · rw [if_pos hempty]
    rfl
  · have hdirectory := h.resolve_left hempty
    rw [if_neg hempty, run_bind, run_makeDirectory, Files.makeDirectory_of_isDirectory hdirectory]
    refine (run_settle_error world path .alreadyExists).trans ?_
    rw [if_pos hdirectory]

theorem run_deliver_of_isDirectory {options : Options} (world : World) (path code : String)
    (hstdout : options.toStdout = false)
    (h : ∀ above, Path.parent? path = some above → above ≠ "" →
      world.files.isDirectory above = true) :
    (deliver World.host options path code).run world =
      ((world.files.write path code).1.mapError (fileReason "write" path),
        { world with files := (world.files.write path code).2 }) := by
  have hmake : (makeDirectories World.host (Path.ancestors ((Path.parent? path).getD ""))).run world
      = (.ok (), world) := by
    refine run_makeDirectories_of_isDirectory _ ?_
    cases hparent : Path.parent? path with
    | none => exact .inl rfl
    | some above => exact or_iff_not_imp_left.mpr (h above hparent)
  simp only [deliver, hstdout, Bool.false_eq_true, if_false, run_bind, hmake, run_write]
  cases (world.files.write path code).1 <;> rfl

end Batch

namespace World

variable {world : World} {options : Options} {input : String}

/-- Where no directory has to be made, all that is left for an input with code is to write it. -/
theorem batch_singleton_of_code {code : String}
    (hdirectory : ∀ directory ∈ options.directory, world.files.isDirectory directory = true)
    (hstdout : options.toStdout = false) (hcode : world.files.code? options input = some code) :
    let written := world.files.write (Path.target options.directory input) code
    Turn.isConverted options ⟨world, input⟩ = written.1.isOk ∧
      (world.batch options [input]).2.files = written.2 := by
  obtain ⟨notes, hrun⟩ := Batch.run_convertFile_of_some hcode
  have hdeliver := Batch.run_deliver_of_isDirectory
    { world with said := world.said ++ notes.map .note }
    (Path.target options.directory input) code hstdout
    fun above => Files.isDirectory_parent_target hdirectory hcode
  simp only [hdeliver] at hrun
  obtain ⟨hdone, message, -, hbatch⟩ := batch_singleton_of_run hrun
  refine ⟨hdone.trans ?_, by rw [hbatch]⟩
  cases (world.files.write (Path.target options.directory input) code).1 <;> rfl

/-- A turn for which no directory has to be made. -/
theorem batch_singleton_of_directory
    (hdirectory : ∀ directory ∈ options.directory, world.files.isDirectory directory = true)
    (input : String) :
    let after := (world.batch options [input]).2.files
    (Turn.isConverted options ⟨world, input⟩ = true ↔
      ∃ code, world.files.code? options input = some code ∧
        (options.toStdout = true ∨ ∃ place, world.files.Writes options input place code ∧
          world.files.breaks? place code.toUTF8 = none)) ∧
    ((∃ place code, world.files.Writes options input place code ∧
        after = world.files.put place (.file (world.files.share place code.toUTF8))) ∨
      (∀ place code, ¬world.files.Writes options input place code) ∧ after = world.files) := by
  cases hcode : world.files.code? options input with
  | none =>
      obtain ⟨hdone, hfiles⟩ := files_batch_of_code?_eq_none hcode
      refine ⟨by simp [hdone], .inr ⟨fun place code hwrites => ?_, hfiles⟩⟩
      cases hcode.symm.trans hwrites.code
  | some code =>
      by_cases hstdout : options.toStdout = true
      · obtain ⟨hfiles, hdone, -⟩ := batch_singleton_toStdout hstdout world input
        refine ⟨by simp [hdone, hcode, hstdout], .inr ⟨fun place code hwrites => ?_, hfiles⟩⟩
        cases hstdout.symm.trans hwrites.toStdout
      rw [Bool.not_eq_true] at hstdout
      obtain ⟨hdone, hfiles⟩ := batch_singleton_of_code hdirectory hstdout hcode
      by_cases hopens : ∃ place, world.files.Opens (Path.target options.directory input) place
      · obtain ⟨place, hopens⟩ := hopens
        have hwrites : world.files.Writes options input place code :=
          ⟨hstdout, hcode, hopens.target, hopens.free⟩
        rw [Files.write_of_opens hopens] at hdone hfiles
        rw [Files.isOk_fill_fst] at hdone
        refine ⟨?_, .inl ⟨place, code, hwrites, hfiles.trans (Files.fill_snd ..)⟩⟩
        rw [hdone, Option.isNone_iff_eq_none]
        constructor
        · exact fun hnone => ⟨code, rfl, .inr ⟨place, hwrites, hnone⟩⟩
        · rintro ⟨text, htext, htrue | ⟨target, htarget, hnone⟩⟩
          · cases hstdout.symm.trans htrue
          · obtain rfl := Option.some.inj htext
            obtain rfl := Except.ok.inj (htarget.target.symm.trans hopens.target)
            exact hnone
      · obtain ⟨fault, hwrite⟩ := Files.write_of_not_opens (not_exists.mp hopens) code
        rw [hwrite] at hdone hfiles
        have hwrites (place : List String) (text : String) :
            ¬world.files.Writes options input place text :=
          fun hplace => hopens ⟨place, hplace.target, hplace.free⟩
        refine ⟨iff_of_false (ne_true_of_eq_false hdone) ?_, .inr ⟨hwrites, hfiles⟩⟩
        rintro ⟨text, -, htrue | ⟨place, hplace, -⟩⟩
        · cases hstdout.symm.trans htrue
        · exact hwrites place text hplace

/-- Such a turn keeps all directories as they are, and every place but the one it writes to. -/
theorem find?_singleton_of_directory
    (hdirectory : ∀ directory ∈ options.directory, world.files.isDirectory directory = true)
    (input : String) :
    let now := (world.batch options [input]).2.files
    world.files.SameDirectories now ∧
      (∀ place code, world.files.Writes options input place code →
        now.find? place = some (.file (world.files.share place code.toUTF8))) ∧
      ∀ place, (∀ code, ¬world.files.Writes options input place code) →
        now.find? place = world.files.find? place := by
  intro now
  obtain ⟨-, ⟨target, text, hwrites, hnow⟩ | ⟨hnone, hnow⟩⟩ :=
    batch_singleton_of_directory hdirectory input
  · have hroot := Files.ne_root_of_find? hwrites.free
    replace hnow : now = _ := hnow
    rw [hnow]
    refine ⟨.put hwrites.free _, fun place code hplace => ?_, fun place hplace => ?_⟩
    · obtain rfl := Except.ok.inj (hplace.target.symm.trans hwrites.target)
      obtain rfl := Option.some.inj (hplace.code.symm.trans hwrites.code)
      rw [Files.find?_put _ hroot, if_pos rfl]
    · rw [Files.find?_put _ hroot, if_neg]
      rintro rfl
      exact hplace text hwrites
  · replace hnow : now = _ := hnow
    rw [hnow]
    exact ⟨.refl _, fun place code hplace => absurd hplace (hnone place code), fun _ _ => rfl⟩

end World

namespace Files.Separate

variable {files now : Files} {options : Options} {inputs others : List String}

theorem of_sameDirectories (h : files.Separate options inputs) (hsame : files.SameDirectories now) :
    now.Separate options inputs := by
  refine ⟨fun directory hdirectory => hsame.isDirectory_of (h.directory directory hdirectory),
    h.targets.imp fun hab place ha hb => ?_, fun a ha b hb hne place htarget hplace => ?_⟩
  · exact hab place (hsame.resolve_eq_ok_iff.mp ha) (hsame.resolve_eq_ok_iff.mp hb)
  · exact h.inputs a ha b hb hne place (hsame.resolve_eq_ok_iff.mp htarget)
      (hsame.resolve_eq_ok_iff.mp hplace)

theorem of_sublist (h : files.Separate options inputs) (hsub : others.Sublist inputs) :
    files.Separate options others :=
  ⟨h.directory, h.targets.sublist hsub,
    fun a ha b hb => h.inputs a (hsub.subset ha) b (hsub.subset hb)⟩

theorem of_perm (h : files.Separate options inputs) (hperm : inputs.Perm others) :
    files.Separate options others :=
  ⟨h.directory, (hperm.pairwise_iff fun hab place hb ha => hab place ha hb).mp h.targets,
    fun a ha b hb => h.inputs a (hperm.mem_iff.mpr ha) b (hperm.mem_iff.mpr hb)⟩

/-- No input writes to the target of another. -/
theorem eq_of_writes (h : files.Separate options inputs) {a b code : String}
    {place : List String} (ha : a ∈ inputs) (hb : b ∈ inputs)
    (hwrites : files.Writes options a place code)
    (htarget : files.resolve (Path.target options.directory b) = .ok place) : a = b := by
  have hsymm : Std.Symm fun a b : String => ∀ place,
      files.resolve (Path.target options.directory a) = .ok place →
        files.resolve (Path.target options.directory b) ≠ .ok place :=
    ⟨fun a b hab place hb ha => hab place ha hb⟩
  by_contra hne
  exact h.targets.forall ha hb hne place hwrites.target htarget

end Files.Separate

/-! ### Batches of separate inputs -/

namespace World

variable {world : World} {options : Options} {input : String} {inputs : List String}

/-- What the first of separate inputs leaves to the others. -/
theorem step_of_separate (h : world.files.Separate options (input :: inputs)) :
    let now := (world.batch options [input]).2.files
    world.files.SameDirectories now ∧ ∀ next ∈ inputs, ∀ place,
      world.files.resolve next = .ok place → now.find? place = world.files.find? place := by
  obtain ⟨hsame, -, hkept⟩ := find?_singleton_of_directory h.directory input
  refine ⟨hsame, fun next hnext place hplace => hkept place fun code hwrites => ?_⟩
  by_cases heq : input = next
  · subst heq
    exact (List.pairwise_cons.mp h.targets).1 input hnext place hwrites.target hwrites.target
  · exact h.inputs input (List.mem_cons_self ..) next (List.mem_cons_of_mem _ hnext) heq place
      hwrites.target hplace

/-- What the others find after the first of separate inputs. -/
theorem separate_tail (h : world.files.Separate options (input :: inputs)) :
    (world.batch options [input]).2.files.Separate options inputs :=
  (h.of_sublist (List.sublist_cons_self ..)).of_sameDirectories (step_of_separate h).1

/-- The first of separate inputs does not change what becomes of the others. -/
theorem isConverted_of_separate (h : world.files.Separate options (input :: inputs))
    {next : String} (hnext : next ∈ inputs) :
    Turn.isConverted options ⟨(world.batch options [input]).2, next⟩ =
      Turn.isConverted options ⟨world, next⟩ := by
  obtain ⟨hsame, hfind⟩ := step_of_separate h
  have hdirectory := (h.of_sameDirectories hsame).directory
  rw [Bool.eq_iff_iff, (batch_singleton_of_directory hdirectory next).1,
    (batch_singleton_of_directory h.directory next).1, hsame.code?_eq (hfind next hnext)]
  simp only [hsame.writes_iff (hfind next hnext), hsame.breaks?]

theorem summary_of_separate (h : world.files.Separate options inputs) :
    (world.batch options inputs).1 =
      ⟨inputs.filter fun input => Turn.isConverted options ⟨world, input⟩,
        inputs.filter fun input => !Turn.isConverted options ⟨world, input⟩⟩ := by
  induction inputs generalizing world with
  | nil => rfl
  | cons input inputs ih =>
      rw [batch_cons]
      dsimp only
      have hconverted : ∀ next ∈ inputs,
          Turn.isConverted options ⟨(world.batch options [input]).2, next⟩ =
            Turn.isConverted options ⟨world, next⟩ := fun _ hnext => isConverted_of_separate h hnext
      have hfailed : ∀ next ∈ inputs,
          (!Turn.isConverted options ⟨(world.batch options [input]).2, next⟩) =
            !Turn.isConverted options ⟨world, next⟩ := fun next hnext => by
        rw [hconverted next hnext]
      rw [ih (separate_tail h), summary_singleton, List.filter_congr hconverted,
        List.filter_congr hfailed]
      cases hdone : Turn.isConverted options ⟨world, input⟩ <;> simp [hdone]

/-- Separate inputs leave a place alone to which none of them can write. -/
theorem find?_kept_of_separate (h : world.files.Separate options inputs) {place : List String}
    (hnone : ∀ input ∈ inputs, ∀ code, ¬world.files.Writes options input place code) :
    (world.batch options inputs).2.files.find? place = world.files.find? place := by
  induction inputs generalizing world with
  | nil => rfl
  | cons input inputs ih =>
      obtain ⟨hsame, hfind⟩ := step_of_separate h
      obtain ⟨hfirst, hrest⟩ := List.forall_mem_cons.mp hnone
      rw [batch_cons]
      refine (ih (separate_tail h) fun next hnext code hwrites => ?_).trans
        ((find?_singleton_of_directory h.directory input).2.2 place hfirst)
      exact hrest next hnext code ((hsame.writes_iff (hfind next hnext)).mp hwrites)

/-- Separate inputs leave behind what can be written of their codes, each at its target. -/
theorem find?_written_of_separate (h : world.files.Separate options inputs)
    (hinput : input ∈ inputs) {place : List String} {code : String}
    (hwrites : world.files.Writes options input place code) :
    (world.batch options inputs).2.files.find? place =
      some (.file (world.files.share place code.toUTF8)) := by
  induction inputs generalizing world with
  | nil => cases hinput
  | cons first inputs ih =>
      obtain ⟨hsame, hfind⟩ := step_of_separate h
      rw [batch_cons]
      rcases List.mem_cons.mp hinput with rfl | hinput
      · refine (find?_kept_of_separate (separate_tail h) fun next hnext text hnow => ?_).trans
          ((find?_singleton_of_directory h.directory input).2.1 place code hwrites)
        have htarget := ((hsame.writes_iff (hfind next hnext)).mp hnow).target
        exact (List.pairwise_cons.mp h.targets).1 next hnext place hwrites.target htarget
      · rw [← hsame.keepsDirectories.share_eq]
        exact ih (separate_tail h) hinput ((hsame.writes_iff (hfind input hinput)).mpr hwrites)

theorem sameDirectories_of_separate (h : world.files.Separate options inputs) :
    world.files.SameDirectories (world.batch options inputs).2.files := by
  induction inputs generalizing world with
  | nil => exact .refl _
  | cons input inputs ih =>
      obtain ⟨hsame, -⟩ := step_of_separate h
      rw [batch_cons]
      exact hsame.trans (ih (separate_tail h))

theorem find?_target_of_separate (h : world.files.Separate options inputs)
    (hinput : input ∈ inputs) {place : List String}
    (htarget : world.files.resolve (Path.target options.directory input) = .ok place) :
    (world.batch options inputs).2.files.find? place =
      (world.batch options [input]).2.files.find? place := by
  obtain ⟨-, hwritten, hkept⟩ := find?_singleton_of_directory h.directory input
  by_cases hwrites : ∃ code, world.files.Writes options input place code
  · obtain ⟨code, hwrites⟩ := hwrites
    rw [find?_written_of_separate h hinput hwrites, hwritten place code hwrites]
  · rw [find?_kept_of_separate h fun other hother code hother' => ?_,
      hkept place (not_exists.mp hwrites)]
    obtain rfl := h.eq_of_writes hother hinput hother' htarget
    exact hwrites ⟨code, hother'⟩

theorem find?_of_separate_perm {others : List String} (h : world.files.Separate options inputs)
    (hperm : inputs.Perm others) (place : List String) :
    (world.batch options others).2.files.find? place =
      (world.batch options inputs).2.files.find? place := by
  have hothers := h.of_perm hperm
  by_cases hwrites : ∃ input ∈ inputs, ∃ code, world.files.Writes options input place code
  · obtain ⟨input, hinput, code, hwrites⟩ := hwrites
    rw [find?_written_of_separate h hinput hwrites,
      find?_written_of_separate hothers (hperm.mem_iff.mp hinput) hwrites]
  · have hnone : ∀ input ∈ inputs, ∀ code, ¬world.files.Writes options input place code :=
      fun input hinput code hcode => hwrites ⟨input, hinput, code, hcode⟩
    rw [find?_kept_of_separate h hnone, find?_kept_of_separate hothers fun input hinput =>
      hnone input (hperm.mem_iff.mpr hinput)]

/-- Separate inputs are converted or fail as each of them does alone, with the same contents at
its target, and so they do in any other order, with the same files in the end. -/
theorem batch_independent (h : world.files.Separate options inputs) :
    let isConverted := fun input => (world.batch options [input]).1.converted == [input]
    let isFailed := fun input => (world.batch options [input]).1.failed == [input]
    let after := world.batch options inputs
    after.1 = ⟨inputs.filter isConverted, inputs.filter isFailed⟩ ∧
      (∀ input ∈ inputs, after.2.files.leadsTo? (Path.target options.directory input) =
        (world.batch options [input]).2.files.leadsTo? (Path.target options.directory input)) ∧
      ∀ others, inputs.Perm others →
        let again := world.batch options others
        again.1 = ⟨others.filter isConverted, others.filter isFailed⟩ ∧
          again.2.files.here = after.2.files.here ∧
            ∀ place, again.2.files.find? place = after.2.files.find? place := by
  intro isConverted isFailed after
  have hfailed (input : String) :
      (!Turn.isConverted options ⟨world, input⟩) = isFailed input := by
    simp only [isFailed, summary_singleton]
    cases Turn.isConverted options ⟨world, input⟩ <;> simp
  have hsummary {inputs : List String} (h : world.files.Separate options inputs) :
      (world.batch options inputs).1 = ⟨inputs.filter isConverted, inputs.filter isFailed⟩ := by
    rw [summary_of_separate h]
    simp only [hfailed]
    rfl
  refine ⟨hsummary h, fun input hinput => ?_, fun others hperm => ?_⟩
  · exact (sameDirectories_of_separate h).leadsTo?_eq
      (sameDirectories_of_separate (h.of_sublist (List.singleton_sublist.mpr hinput)))
      fun place htarget => find?_target_of_separate h hinput htarget
  · have hothers := h.of_perm hperm
    exact ⟨hsummary hothers, (sameDirectories_of_separate hothers).here.trans
      (sameDirectories_of_separate h).here.symm, find?_of_separate_perm h hperm⟩

/-- Two layouts, of which the second breaks off, in either order. -/
theorem batch_independent_swapped :
    let world : World := { files := { entries := [(["out"], .directory),
      (["first.xml"], .file "<View/>".toUTF8), (["second.xml"], .file "<View".toUTF8)] } }
    let options : Options := { directory := some "out" }
    world.files.Separate options ["first.xml", "second.xml"] ∧
      (world.batch options ["first.xml", "second.xml"]).1 = ⟨["first.xml"], ["second.xml"]⟩ ∧
        ∀ place, (world.batch options ["second.xml", "first.xml"]).2.files.find? place =
          (world.batch options ["first.xml", "second.xml"]).2.files.find? place := by
  intro world options
  have hseparate : world.files.Separate options ["first.xml", "second.xml"] := by
    refine ⟨fun directory hdirectory => ?_, ?_, fun a ha b hb _ place htarget hplace => ?_⟩
    · cases hdirectory
      decide +kernel
    · rw [List.pairwise_pair]
      intro place hfirst hsecond
      exact absurd (hfirst.trans hsecond.symm) (by decide +kernel)
    · have hsame := htarget.trans hplace.symm
      rcases List.mem_pair.mp ha with rfl | rfl <;> rcases List.mem_pair.mp hb with rfl | rfl <;>
        exact absurd hsame (by decide +kernel)
  obtain ⟨-, -, hothers⟩ := batch_independent hseparate
  exact ⟨hseparate, by decide +kernel, (hothers _ (List.Perm.swap ..)).2.2⟩

end World

end LayoutCompose
