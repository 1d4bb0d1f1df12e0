import LayoutCompose.Batch.Basic
import LayoutCompose.Proofs.Places

/-!
What one input of a batch does to the world.

An input that cannot be read or converted leaves the files alone. The code of any other is printed,
or else the missing directories on the way to its target are made, the target is opened and the code
is written there, as far as the writing gets. These are all the changes that one input can bring
about, and the statements about batches rest on nothing else.
-/

namespace LayoutCompose

/-! ### Changes of files -/

namespace Files

variable {files made : Files}

theorem lookup_filter_ne (entries : List (List String × Entry)) {place p : List String}
    (h : p ≠ place) :
    (entries.filter fun e => e.1 != place).lookup p = entries.lookup p := by
  induction entries with
  | nil => rfl
  | cons e entries ih =>
      obtain ⟨q, entry⟩ := e
      by_cases hq : q = place
      · have hpq : (p == q) = false := beq_false_of_ne fun hpq => h (hpq.trans hq)
        simp [hq, List.lookup_cons, ih, hq ▸ hpq]
      · simp [hq, List.lookup_cons, ih]

theorem find?_put (files : Files) {place : List String} (hplace : place ≠ []) (entry : Entry)
    (p : List String) :
    (files.put place entry).find? p = if p = place then some entry else files.find? p := by
  unfold find? put
  by_cases hp : p = place
  · subst hp
    simp [hplace]
  · simp only [hp, if_false, List.lookup_cons, beq_false_of_ne hp, lookup_filter_ne _ hp]

@[simp] theorem put_put (files : Files) (place : List String) (first second : Entry) :
    (files.put place first).put place second = files.put place second := by
  simp [put, List.filter_filter]

theorem ne_root_of_find? {place : List String} (h : files.find? place ≠ some .directory) :
    place ≠ [] := by
  rintro rfl
  exact h rfl

structure KeepsDirectories (files made : Files) : Prop where
  here : made.here = files.here
  breaks? : made.breaks? = files.breaks?
  directories : ∀ p, files.find? p = some .directory → made.find? p = some .directory

theorem KeepsDirectories.refl (files : Files) : files.KeepsDirectories files :=
  ⟨rfl, rfl, fun _ h => h⟩

theorem KeepsDirectories.trans {after : Files} (h : files.KeepsDirectories made)
    (h' : made.KeepsDirectories after) : files.KeepsDirectories after :=
  ⟨h'.here.trans h.here, h'.breaks?.trans h.breaks?,
    fun p hp => h'.directories p (h.directories p hp)⟩

theorem KeepsDirectories.start_eq (h : files.KeepsDirectories made) (path : String) :
    made.start path = files.start path := by
  rw [start, start, h.here]

theorem KeepsDirectories.passes (h : files.KeepsDirectories made) {place names : List String}
    (hpasses : files.Passes place names) : made.Passes place names := by
  induction names generalizing place with
  | nil => trivial
  | cons name names ih => exact ⟨h.directories _ hpasses.1, ih hpasses.2⟩

theorem KeepsDirectories.way_eq (h : files.KeepsDirectories made) (path : String) :
    made.way path = files.way path := by
  rw [way, way, h.start_eq]

theorem KeepsDirectories.share_eq (h : files.KeepsDirectories made) (place : List String)
    (contents : ByteArray) : made.share place contents = files.share place contents := by
  rw [share, share, h.breaks?]

/-- A path that leads somewhere goes on leading there. -/
theorem KeepsDirectories.resolve (h : files.KeepsDirectories made) {path : String}
    {place : List String} (hplace : files.resolve path = .ok place) :
    made.resolve path = .ok place := by
  obtain ⟨hpath, hpasses, rfl⟩ := resolve_eq_ok_iff.mp hplace
  refine resolve_eq_ok_iff.mpr ⟨hpath, ?_, ?_⟩ <;> rw [h.start_eq]
  exact h.passes hpasses

/-- A file in the place of a file or of nothing takes no directory away. -/
theorem keepsDirectories_put {place : List String} (h : files.find? place ≠ some .directory)
    (contents : ByteArray) : files.KeepsDirectories (files.put place (.file contents)) := by
  refine ⟨rfl, rfl, fun p hp => ?_⟩
  rw [find?_put files (ne_root_of_find? h), if_neg, hp]
  rintro rfl
  exact h hp

/-! ### Writing a file -/

/-- A path leads to a place where a file can be written. -/
structure Opens (files : Files) (path : String) (place : List String) : Prop where
  target : files.resolve path = .ok place
  free : files.find? place ≠ some .directory

theorem create_of_opens {path : String} {place : List String} (h : files.Opens path place) :
    files.create path = .ok (place, files.put place (.file .empty)) := by
  unfold create
  rw [h.target]
  have hfree := h.free
  rcases hfind : files.find? place with _ | _ | _
  · simp only [hfind]
  · simp only [hfind]
  · exact absurd hfind hfree

theorem opens_of_create {path : String} {place : List String}
    (h : files.create path = .ok (place, made)) : files.Opens path place := by
  unfold create at h
  cases hresolve : files.resolve path with
  | error fault => simp [hresolve] at h
  | ok target =>
      simp only [hresolve] at h
      rcases hfind : files.find? target with _ | _ | _ <;> simp only [hfind, reduceCtorEq] at h
      all_goals
        obtain ⟨rfl, -⟩ := Prod.mk.inj (Except.ok.inj h)
        exact ⟨hresolve, by simp [hfind]⟩

@[simp] theorem share_put (files : Files) (p place : List String) (entry : Entry)
    (contents : ByteArray) :
    (files.put p entry).share place contents = files.share place contents := rfl

theorem share_of_breaks?_eq_none {place : List String} {contents : ByteArray}
    (h : files.breaks? place contents = none) : files.share place contents = contents := by
  rw [share, h]

@[simp] theorem fill_snd (files : Files) (place : List String) (contents : ByteArray) :
    (files.fill place contents).2 = files.put place (.file (files.share place contents)) := by
  unfold fill
  cases files.breaks? place contents <;> rfl

@[simp] theorem isOk_fill_fst (files : Files) (place : List String) (contents : ByteArray) :
    (files.fill place contents).1.isOk = (files.breaks? place contents).isNone := by
  unfold fill
  cases files.breaks? place contents <;> rfl

@[simp] theorem fill_put (files : Files) (place : List String) (entry : Entry)
    (contents : ByteArray) :
    (files.put place entry).fill place contents = files.fill place contents := by
  unfold fill
  rw [share_put, put_put]
  rfl

theorem write_of_opens {path : String} {place : List String} (h : files.Opens path place)
    (text : String) : files.write path text = files.fill place text.toUTF8 := by
  rw [write, create_of_opens h]
  exact fill_put ..

/-- What cannot be opened is left alone. -/
theorem write_of_not_opens {path : String} (h : ∀ place, ¬files.Opens path place)
    (text : String) : ∃ fault, files.write path text = (.error fault, files) := by
  rw [write]
  cases hcreate : files.create path with
  | error fault => exact ⟨fault, rfl⟩
  | ok opened => exact absurd (opens_of_create hcreate) (h opened.1)

/-! ### Making directories -/

/-- A place is as it was, or else there was nothing and now it is a directory, for a reason. -/
def KeptOrMade (files made : Files) (place : List String) (reason : Prop) : Prop :=
  made.find? place = files.find? place ∨
    files.find? place = none ∧ made.find? place = some .directory ∧ reason

theorem KeptOrMade.trans {after : Files} {place : List String} {reason : Prop}
    (h : KeptOrMade files made place reason) (h' : KeptOrMade made after place reason) :
    KeptOrMade files after place reason := by
  rcases h with heq | ⟨hnone, hdirectory, hreason⟩
  · rw [KeptOrMade, heq] at h'
    exact h'
  · rcases h' with heq' | ⟨hnone', -, -⟩
    · exact .inr ⟨hnone, heq'.trans hdirectory, hreason⟩
    · rw [hnone'] at hdirectory
      cases hdirectory

theorem KeptOrMade.imp {place : List String} {reason reason' : Prop} (hreason : reason → reason')
    (h : KeptOrMade files made place reason) : KeptOrMade files made place reason' :=
  h.imp_right fun h => ⟨h.1, h.2.1, hreason h.2.2⟩

/-- Some of the given places, at which there was nothing, have become directories. Nothing else has
changed. -/
structure MakesDirectories (way : List (List String)) (files made : Files) : Prop where
  here : made.here = files.here
  breaks? : made.breaks? = files.breaks?
  entries : ∀ p, KeptOrMade files made p (p ∈ way)

namespace MakesDirectories

variable {way : List (List String)}

theorem refl (way : List (List String)) (files : Files) : MakesDirectories way files files :=
  ⟨rfl, rfl, fun _ => .inl rfl⟩

theorem trans {after : Files} (h : MakesDirectories way files made)
    (h' : MakesDirectories way made after) : MakesDirectories way files after :=
  ⟨h'.here.trans h.here, h'.breaks?.trans h.breaks?,
    fun p => (h.entries p).trans (h'.entries p)⟩

theorem keepsDirectories (h : MakesDirectories way files made) : files.KeepsDirectories made := by
  refine ⟨h.here, h.breaks?, fun p hp => ?_⟩
  rcases h.entries p with heq | ⟨hnone, -, -⟩
  · rw [heq, hp]
  · rw [hnone] at hp
    cases hp

theorem put {place : List String} (hway : place ∈ way) (hnone : files.find? place = none) :
    MakesDirectories way files (files.put place .directory) := by
  have hplace : place ≠ [] := by
    rintro rfl
    cases hnone
  refine ⟨rfl, rfl, fun p => ?_⟩
  rw [KeptOrMade, find?_put files hplace]
  by_cases hp : p = place
  · subst hp
    exact .inr ⟨hnone, if_pos rfl, hway⟩
  · exact .inl (if_neg hp)

end MakesDirectories

end Files

namespace Batch

/-! ### The host in memory -/

@[simp] theorem run_pure {α : Type} (a : α) (world : World) :
    (pure a : StateM World α).run world = (a, world) := rfl

theorem run_bind {α β : Type} (first : StateM World α) (next : α → StateM World β) (world : World) :
    (first >>= next).run world = (next (first.run world).1).run (first.run world).2 := rfl

@[simp] theorem run_read (world : World) (path : String) :
    (World.host.read path).run world = (world.files.read path, world) := rfl

@[simp] theorem run_isDirectory (world : World) (path : String) :
    (World.host.isDirectory path).run world = (world.files.isDirectory path, world) := rfl

@[simp] theorem run_say (world : World) (message : Message) :
    (World.host.say message).run world = ((), { world with said := world.said ++ [message] }) := rfl

theorem run_makeDirectory (world : World) (path : String) :
    (World.host.makeDirectory path).run world =
      match world.files.makeDirectory path with
      | .ok files => (.ok (), { world with files })
      | .error fault => (.error fault, world) := rfl

@[simp] theorem run_write (world : World) (path text : String) :
    (World.host.write path text).run world =
      ((world.files.write path text).1, { world with files := (world.files.write path text).2 }) :=
  rfl

@[simp] theorem run_settle_error (world : World) (path : String) (fault : FileFault) :
    (settle World.host path (.error fault)).run world =
      (if world.files.isDirectory path then .ok () else .error fault, world) := by
  rw [settle, run_bind, run_isDirectory]
  cases world.files.isDirectory path <;> rfl

theorem exists_run_settle (files : Files) (path : String) (made : Except FileFault Unit) :
    ∃ result, ∀ said,
      (settle World.host path made).run ⟨files, said⟩ = (result, ⟨files, said⟩) := by
  cases made with
  | ok u => exact ⟨_, fun _ => rfl⟩
  | error fault =>
      exact ⟨if files.isDirectory path then .ok () else .error fault,
        fun said => run_settle_error ⟨files, said⟩ path fault⟩

/-- One attempt to make a directory on the way. -/
theorem exists_run_makeDirectory {target path : String}
    (hpath : path = "/" ∨ Path.names path <+: (Path.names target).dropLast) (files : Files) :
    ∃ result made, (∀ said, (World.host.makeDirectory path).run ⟨files, said⟩ =
        (result, ⟨made, said⟩)) ∧
      Files.MakesDirectories (files.way target) files made := by
  simp only [run_makeDirectory]
  cases h : files.makeDirectory path with
  | error fault => exact ⟨_, files, fun _ => rfl, .refl ..⟩
  | ok made =>
      obtain ⟨place, hway, hnone, rfl⟩ := Files.mem_way_of_makeDirectory hpath h
      exact ⟨_, _, fun _ => rfl, .put hway hnone⟩

/-- Whether the directories are made or not, no place changes but those on the way, whatever has
been said before. -/
theorem exists_run_makeDirectories {target : String} {paths : List String}
    (hpaths : ∀ path ∈ paths,
      path = "" ∨ path = "/" ∨ Path.names path <+: (Path.names target).dropLast)
    (files : Files) : ∃ result made,
      (∀ said, (makeDirectories World.host paths).run ⟨files, said⟩ = (result, ⟨made, said⟩)) ∧
        Files.MakesDirectories (files.way target) files made := by
  induction paths generalizing files with
  | nil => exact ⟨_, files, fun _ => rfl, .refl ..⟩
  | cons path above ih =>
      obtain ⟨hpath, habove⟩ := List.forall_mem_cons.mp hpaths
      rw [makeDirectories]
      by_cases hempty : path = ""
      · rw [if_pos hempty]
        exact ⟨.ok (), files, fun _ => rfl, .refl ..⟩
      replace hpath := hpath.resolve_left hempty
      obtain ⟨first, made, hfirst, hmade⟩ := exists_run_makeDirectory hpath files
      simp only [if_neg hempty, run_bind, hfirst]
      by_cases hmissing : first = .error .notFound
      · obtain ⟨second, made', hsecond, hmade'⟩ := ih habove made
        rw [hmade.keepsDirectories.way_eq] at hmade'
        replace hmade' := hmade.trans hmade'
        simp only [hmissing, run_bind, hsecond]
        cases second with
        | error fault => exact ⟨_, made', fun _ => rfl, hmade'⟩
        | ok u =>
            obtain ⟨third, made'', hthird, hmade''⟩ := exists_run_makeDirectory hpath made'
            rw [hmade'.keepsDirectories.way_eq] at hmade''
            obtain ⟨result, hresult⟩ := exists_run_settle made'' path third
            simp only [run_bind, hthird, hresult]
            exact ⟨result, made'', fun _ => rfl, hmade'.trans hmade''⟩
      · obtain ⟨result, hresult⟩ := exists_run_settle made path first
        refine ⟨result, made, fun said => ?_, hmade⟩
        rw [← hresult]
        split
        · contradiction
        · rfl

theorem names_of_mem_ancestors (target : String) {path : String}
    (h : path ∈ Path.ancestors ((Path.parent? target).getD "")) :
    path = "" ∨ path = "/" ∨ Path.names path <+: (Path.names target).dropLast := by
  cases hparent : Path.parent? target with
  | none =>
      rw [hparent] at h
      exact .inl (List.mem_singleton.mp h)
  | some directory =>
      rw [hparent, Option.getD_some, Path.ancestors, List.mem_cons] at h
      rcases h with rfl | h
      · exact Path.names_parent hparent
      rcases Path.names_parent hparent with rfl | rfl | hnames
      · cases h
      · cases h
      · rcases Path.names_of_mem_parents h with hempty | hroot | habove
        · exact .inl hempty
        · exact .inr (.inl hroot)
        · exact .inr (.inr (habove.trans hnames))

end Batch

/-! ### Delivering code -/

/-- The place that is opened for a path, once the directories above it have been made. -/
def Files.openedFor? (files : Files) (path : String) : Option (List String) :=
  let above := Path.ancestors ((Path.parent? path).getD "")
  match (Batch.makeDirectories World.host above).run { files } with
  | (.ok (), made) => (made.files.create path).toOption.map Prod.fst
  | (.error _, _) => none

namespace Batch

theorem run_deliver_toStdout {options : Options} (h : options.toStdout = true) (world : World)
    (path code : String) : (deliver World.host options path code).run world =
      (.ok (), { world with said := world.said ++ [.print code] }) := by
  rw [deliver, if_pos h]
  rfl

/-- Code that is not printed gets to the place that is opened for it, in full or in part, or only
directories are made. -/
theorem exists_run_deliver {options : Options} (h : options.toStdout = false) (files : Files)
    (path code : String) : ∃ result made after,
      (∀ said, (deliver World.host options path code).run ⟨files, said⟩ =
          (result, ⟨after, said⟩)) ∧
        Files.MakesDirectories (files.way path) files made ∧
        match files.openedFor? path with
        | none => result.isOk = false ∧ after = made
        | some place => made.Opens path place ∧
            result.isOk = (files.breaks? place code.toUTF8).isNone ∧
              after = made.put place (.file (files.share place code.toUTF8)) := by
  obtain ⟨result, made, hrun, hmade⟩ := exists_run_makeDirectories
    (fun _ hpath => names_of_mem_ancestors path hpath) files
  simp only [deliver, h, Bool.false_eq_true, if_false, run_bind, hrun, Files.openedFor?]
  cases result with
  | error fault => exact ⟨_, made, made, fun _ => rfl, hmade, rfl, rfl⟩
  | ok u =>
      simp only [run_bind, run_write]
      by_cases hopens : ∃ place, made.Opens path place
      · obtain ⟨place, hopens⟩ := hopens
        rw [Files.create_of_opens hopens, Files.write_of_opens hopens]
        have hok := made.isOk_fill_fst place code.toUTF8
        rw [hmade.breaks?] at hok
        rw [made.fill_snd, hmade.keepsDirectories.share_eq]
        cases hfill : (made.fill place code.toUTF8).1 with
        | ok u =>
            rw [hfill] at hok
            exact ⟨_, made, _, fun _ => rfl, hmade, hopens, hok, rfl⟩
        | error fault =>
            rw [hfill] at hok
            exact ⟨_, made, _, fun _ => rfl, hmade, hopens, hok, rfl⟩
      · obtain ⟨fault, hwrite⟩ := Files.write_of_not_opens (not_exists.mp hopens) code
        rw [hwrite]
        cases hcreate : made.create path with
        | error fault => exact ⟨_, made, made, fun _ => rfl, hmade, rfl, rfl⟩
        | ok opened => exact absurd ⟨_, Files.opens_of_create hcreate⟩ hopens

@[simp] theorem run_sayNotes (notes : List Note) (world : World) :
    (sayNotes World.host notes).run world =
      ((), { world with said := world.said ++ notes.map .note }) := by
  induction notes generalizing world with
  | nil => rw [sayNotes, run_pure, List.map_nil, List.append_nil]
  | cons n notes ih =>
      rw [sayNotes, run_bind, run_say, ih, List.append_assoc]
      rfl

end Batch

/-! ### One input -/

def Files.code? (files : Files) (options : Options) (input : String) : Option String :=
  match files.read input with
  | .error _ => none
  | .ok source => (convert options source (Path.screenName input)).result.toOption

/-- The place that is opened for the code of an input, if there is code and it is not printed. -/
def Files.opens? (files : Files) (options : Options) (input : String) : Option (List String) :=
  if options.toStdout then none
  else (files.code? options input).bind fun _ =>
    files.openedFor? (Path.target options.directory input)

def Message.printed? : Message → Option String
  | print text => some text
  | _ => none

def World.printed (world : World) : String :=
  String.join (world.said.filterMap Message.printed?)

theorem World.printed_say (files made : Files) (said : List Message) (message : Message) :
    printed ⟨made, said ++ [message]⟩ = printed ⟨files, said⟩ ++ message.printed?.getD "" := by
  simp only [printed, List.filterMap_append, String.join_append, List.filterMap_cons,
    List.filterMap_nil]
  cases message.printed? <;> simp

theorem World.printed_notes (files made : Files) (said : List Message) (notes : List Note) :
    printed ⟨made, said ++ notes.map .note⟩ = printed ⟨files, said⟩ := by
  induction notes generalizing said with
  | nil => simp [printed]
  | cons n notes ih =>
      rw [List.map_cons, List.append_cons, ih, printed_say files]
      exact String.append_empty

namespace Batch

/-- What one input can do: the place that is opened for its code, whether it is converted, the files
after it, and the text that is printed for it. -/
inductive Turns (options : Options) (input : String) (files : Files) :
    Option (List String) → Bool → Files → String → Prop
  | unconverted (hcode : files.code? options input = none) :
      Turns options input files none false files ""
  | printed {code : String} (hstdout : options.toStdout = true)
      (hcode : files.code? options input = some code) :
      Turns options input files none true files code
  | unopened {code : String} {made : Files} (hstdout : options.toStdout = false)
      (hcode : files.code? options input = some code)
      (hmade : Files.MakesDirectories (files.way (Path.target options.directory input))
        files made) : Turns options input files none false made ""
  | opened {code : String} {made : Files} {place : List String}
      (hstdout : options.toStdout = false) (hcode : files.code? options input = some code)
      (hmade : Files.MakesDirectories (files.way (Path.target options.directory input))
        files made)
      (hopens : made.Opens (Path.target options.directory input) place) :
      Turns options input files (some place) (files.breaks? place code.toUTF8).isNone
        (made.put place (.file (files.share place code.toUTF8))) ""

theorem run_convertFile_of_none {options : Options} {input : String} {world : World}
    (h : world.files.code? options input = none) : ∃ (reason : String) (notes : List Note),
      (convertFile World.host options input).run world =
        (.error reason, { world with said := world.said ++ notes.map .note }) := by
  rw [convertFile, run_bind, run_read]
  rw [Files.code?] at h
  cases hread : world.files.read input with
  | error fault =>
      refine ⟨fileReason "read" input fault, [], ?_⟩
      rw [List.map_nil, List.append_nil]
      rfl
  | ok source =>
      simp only [hread] at h
      dsimp only
      generalize convert options source (Path.screenName input) = outcome at h ⊢
      obtain ⟨notes, e | code⟩ := outcome
      · refine ⟨e.message, notes, ?_⟩
        simp only [run_bind, run_sayNotes]
        rfl
      · cases h

/-- Where there is code, converting a file is to deliver it. -/
theorem run_convertFile_of_some {options : Options} {input code : String} {world : World}
    (h : world.files.code? options input = some code) : ∃ notes : List Note,
      (convertFile World.host options input).run world =
        let path := Path.target options.directory input
        let delivered := (deliver World.host options path code).run
          { world with said := world.said ++ notes.map .note }
        (delivered.1.map fun _ => path, delivered.2) := by
  rw [convertFile, run_bind, run_read]
  rw [Files.code?] at h
  cases hread : world.files.read input with
  | error fault => simp [hread] at h
  | ok source =>
      simp only [hread] at h
      dsimp only
      generalize convert options source (Path.screenName input) = outcome at h ⊢
      obtain ⟨notes, _ | _⟩ := outcome
      · cases h
      · cases h
        refine ⟨notes, ?_⟩
        simp only [run_bind, run_sayNotes]
        generalize (deliver World.host options (Path.target options.directory input) code).run
          { world with said := world.said ++ notes.map .note } = delivered
        obtain ⟨_ | _, after⟩ := delivered <;> rfl

theorem exists_run_convertFile (options : Options) (input : String) (world : World) :
    ∃ result files said text,
      (convertFile World.host options input).run world = (result, ⟨files, said⟩) ∧
        Turns options input world.files (world.files.opens? options input) result.isOk files text ∧
          World.printed ⟨files, said⟩ = world.printed ++ text := by
  have hnotes (made : Files) (notes : List Note) :=
    World.printed_notes world.files made world.said notes
  rw [Files.opens?]
  cases hcode : world.files.code? options input with
  | none =>
      obtain ⟨reason, notes, hrun⟩ := run_convertFile_of_none hcode
      refine ⟨_, _, _, "", hrun, ?_, ?_⟩
      · rw [Option.bind_none, ite_self]
        exact .unconverted hcode
      · rw [hnotes, String.append_empty]
  | some code =>
      obtain ⟨notes, hrun⟩ := run_convertFile_of_some hcode
      by_cases hstdout : options.toStdout = true
      · simp only [run_deliver_toStdout hstdout] at hrun
        refine ⟨_, _, _, code, hrun, ?_, ?_⟩
        · rw [if_pos hstdout]
          exact .printed hstdout hcode
        · rw [World.printed_say world.files, hnotes]
          rfl
      · rw [Bool.not_eq_true] at hstdout
        obtain ⟨result, made, after, hdeliver, hmade, hresult⟩ := exists_run_deliver hstdout
          world.files (Path.target options.directory input) code
        simp only [hdeliver] at hrun
        have hisOk (path : String) : (result.map fun _ => path).isOk = result.isOk := by
          cases result <;> rfl
        refine ⟨_, _, _, "", hrun, ?_, ?_⟩
        · rw [hstdout, if_neg Bool.false_ne_true, Option.bind_some, hisOk]
          cases hopened : world.files.openedFor? (Path.target options.directory input) with
          | none =>
              simp only [hopened] at hresult
              obtain ⟨hfailed, rfl⟩ := hresult
              rw [hfailed]
              exact .unopened hstdout hcode hmade
          | some place =>
              simp only [hopened] at hresult
              obtain ⟨hopens, hok, rfl⟩ := hresult
              rw [hok]
              exact .opened hstdout hcode hmade hopens
        · rw [hnotes, String.append_empty]

theorem Turns.keepsDirectories {options : Options} {input text : String} {files after : Files}
    {opened : Option (List String)} {done : Bool}
    (h : Turns options input files opened done after text) : files.KeepsDirectories after := by
  cases h with
  | unconverted hcode => exact .refl files
  | printed hstdout hcode => exact .refl files
  | unopened hstdout hcode hmade => exact hmade.keepsDirectories
  | opened hstdout hcode hmade hopens =>
      exact hmade.keepsDirectories.trans (Files.keepsDirectories_put hopens.free _)

end Batch

end LayoutCompose
