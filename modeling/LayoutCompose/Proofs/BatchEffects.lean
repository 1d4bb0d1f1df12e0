import LayoutCompose.Proofs.Delivery

/-!
What a batch does to the files, and what it prints.

A batch is the sequence of its turns: each input with the world as the inputs before it have left
it. From what one turn can do follows what a whole batch has done in the end: every input is either
converted or failed, a file that differs from before was opened as the target of an input with code
and holds what got there of the code of the last one, and only directories on the way to a target
are new besides. An input for whose code a file was opened is converted unless the writing broke
off, so where no writing does, the files that differ are the targets of converted inputs.
-/

namespace LayoutCompose

/-- The summary of a batch and the world after it. -/
def World.batch (world : World) (options : Options) (inputs : List String) : Summary × World :=
  (Batch.run World.host options inputs).run world

structure Turn where
  world : World
  input : String

/-- The inputs of a batch, each with the world as those before it have left it. -/
def World.turns (world : World) (options : Options) (inputs : List String) : List Turn :=
  inputs.mapIdx fun i input => ⟨(world.batch options (inputs.take i)).2, input⟩

namespace Turn

def isConverted (options : Options) (turn : Turn) : Bool :=
  (turn.world.batch options [turn.input]).1.converted == [turn.input]

def code? (options : Options) (turn : Turn) : Option String :=
  turn.world.files.code? options turn.input

def target (options : Options) (turn : Turn) : String :=
  Path.target options.directory turn.input

def opens? (options : Options) (turn : Turn) : Option (List String) :=
  turn.world.files.opens? options turn.input

end Turn

namespace World

variable {world : World} {options : Options}

@[simp] theorem batch_nil (world : World) (options : Options) :
    world.batch options [] = ({}, world) := rfl

theorem batch_cons (world : World) (options : Options) (input : String) (inputs : List String) :
    world.batch options (input :: inputs) =
      let first := world.batch options [input]
      let rest := first.2.batch options inputs
      (⟨first.1.converted ++ rest.1.converted, first.1.failed ++ rest.1.failed⟩, rest.2) := by
  simp only [batch, Batch.run, Batch.run_bind]
  cases ((Batch.convertFile host options input).run world).1 <;> rfl

@[simp] theorem turns_nil (world : World) (options : Options) : world.turns options [] = [] := rfl

theorem turns_cons (world : World) (options : Options) (input : String) (inputs : List String) :
    world.turns options (input :: inputs) =
      ⟨world, input⟩ :: (world.batch options [input]).2.turns options inputs := by
  simp only [turns, List.mapIdx_cons, List.take_zero, batch_nil, List.take_succ_cons]
  congr 2
  funext i next
  rw [batch_cons]

/-- A batch of one input converts the file and then says what has become of it. -/
theorem batch_singleton_of_run {input : String} {result : Except String String} {after : World}
    (hrun : (Batch.convertFile host options input).run world = (result, after)) :
    Turn.isConverted options ⟨world, input⟩ = result.isOk ∧ ∃ message : Message,
      message.printed? = none ∧ world.batch options [input] =
        (if result.isOk then { converted := [input] } else { failed := [input] },
          { after with said := after.said ++ [message] }) := by
  cases result with
  | ok path =>
      have hbatch : world.batch options [input] = ({ converted := [input] },
          { after with said := after.said ++ [.note (.converted input path)] }) := by
        simp only [batch, Batch.run, Batch.run_bind, hrun]
        rfl
      refine ⟨?_, _, rfl, hbatch⟩
      rw [Turn.isConverted, hbatch]
      exact beq_self_eq_true _
  | error reason =>
      have hbatch : world.batch options [input] = ({ failed := [input] },
          { after with said := after.said ++ [.complaint input reason] }) := by
        simp only [batch, Batch.run, Batch.run_bind, hrun]
        rfl
      refine ⟨?_, _, rfl, hbatch⟩
      rw [Turn.isConverted, hbatch]
      rfl

theorem summary_singleton (world : World) (options : Options) (input : String) :
    (world.batch options [input]).1 =
      if Turn.isConverted options ⟨world, input⟩ then { converted := [input] }
      else { failed := [input] } := by
  obtain ⟨result, files, said, -, hrun, -, -⟩ := Batch.exists_run_convertFile options input world
  obtain ⟨hdone, message, -, hbatch⟩ := batch_singleton_of_run hrun
  rw [hdone, hbatch]

/-- A batch of one input is a turn. -/
theorem batch_singleton (world : World) (options : Options) (input : String) :
    ∃ opened done files text, Batch.Turns options input world.files opened done files text ∧
      world.files.opens? options input = opened ∧
        Turn.isConverted options ⟨world, input⟩ = done ∧
          (world.batch options [input]).2.files = files ∧
            (world.batch options [input]).2.printed = world.printed ++ text := by
  obtain ⟨result, files, said, text, hrun, hturn, hprinted⟩ :=
    Batch.exists_run_convertFile options input world
  obtain ⟨hdone, message, hmessage, hbatch⟩ := batch_singleton_of_run hrun
  refine ⟨_, _, _, text, hturn, rfl, hdone, by rw [hbatch], ?_⟩
  rw [hbatch, printed_say files, hmessage, hprinted]
  exact String.append_empty

@[simp] theorem map_input_turns (world : World) (options : Options) (inputs : List String) :
    (world.turns options inputs).map Turn.input = inputs := by
  induction inputs generalizing world with
  | nil => rfl
  | cons input inputs ih => rw [turns_cons, List.map_cons, ih]

/-- The summary tells the inputs that are converted from the others, both in order. -/
theorem batch_summary (world : World) (options : Options) (inputs : List String) :
    (world.batch options inputs).1 =
      ⟨((world.turns options inputs).filter (Turn.isConverted options)).map Turn.input,
        ((world.turns options inputs).filter fun turn => !turn.isConverted options).map
          Turn.input⟩ := by
  induction inputs generalizing world with
  | nil => rfl
  | cons input inputs ih =>
      rw [batch_cons, turns_cons]
      dsimp only
      rw [ih, summary_singleton]
      cases hdone : Turn.isConverted options ⟨world, input⟩ <;> simp [hdone]

/-- An input without code leaves the files alone. -/
theorem files_batch_of_code?_eq_none {input : String}
    (h : world.files.code? options input = none) :
    Turn.isConverted options ⟨world, input⟩ = false ∧
      (world.batch options [input]).2.files = world.files := by
  obtain ⟨_, _, _, _, hturn, -, hdone, hfiles, -⟩ := batch_singleton world options input
  rw [hdone, hfiles]
  cases hturn with
  | unconverted hcode => exact ⟨rfl, rfl⟩
  | printed hstdout hcode => simp [h] at hcode
  | unopened hstdout hcode => simp [h] at hcode
  | opened hstdout hcode => simp [h] at hcode

theorem keepsDirectories_batch (world : World) (options : Options) (inputs : List String) :
    world.files.KeepsDirectories (world.batch options inputs).2.files := by
  induction inputs generalizing world with
  | nil => exact .refl _
  | cons input inputs ih =>
      obtain ⟨_, _, _, _, hturn, -, -, rfl, -⟩ := batch_singleton world options input
      rw [batch_cons]
      exact hturn.keepsDirectories.trans (ih _)

/-! ### Printing -/

/-- With printing, a turn prints the code if there is one. -/
theorem batch_singleton_toStdout (h : options.toStdout = true) (world : World) (input : String) :
    let after := (world.batch options [input]).2
    after.files = world.files ∧
      Turn.isConverted options ⟨world, input⟩ = (world.files.code? options input).isSome ∧
        after.printed = world.printed ++ (world.files.code? options input).getD "" := by
  obtain ⟨_, _, _, _, hturn, -, hdone, hfiles, hprinted⟩ := batch_singleton world options input
  dsimp only
  rw [hdone, hfiles, hprinted]
  cases hturn with
  | unconverted hcode => simp [hcode]
  | printed hstdout hcode => simp [hcode]
  | unopened hstdout => simp [h] at hstdout
  | opened hstdout => simp [h] at hstdout

theorem batch_toStdout (h : options.toStdout = true) (world : World) (inputs : List String) :
    let turns := world.turns options inputs
    let after := (world.batch options inputs).2
    after.files = world.files ∧
      (∀ turn ∈ turns, turn.isConverted options = (turn.code? options).isSome) ∧
        after.printed = world.printed ++
          String.join ((turns.filter (Turn.isConverted options)).filterMap
            (Turn.code? options)) := by
  induction inputs generalizing world with
  | nil => exact ⟨rfl, by simp [turns], String.append_empty.symm⟩
  | cons input inputs ih =>
      obtain ⟨hfiles, hdone, hprinted⟩ := batch_singleton_toStdout h world input
      obtain ⟨hfiles', hdone', hprinted'⟩ := ih (world.batch options [input]).2
      rw [batch_cons, turns_cons]
      refine ⟨hfiles'.trans hfiles, List.forall_mem_cons.mpr ⟨hdone, hdone'⟩, ?_⟩
      dsimp only
      rw [hprinted', hprinted, List.filter_cons, hdone]
      cases hcode : world.files.code? options input with
      | none => simp
      | some code => simp [Turn.code?, hcode, String.append_assoc]

/-! ### Writing -/

/-- Where a place is opened for the code of an input, it is the target and holds what got there of
the code. The input is converted unless the writing broke off. -/
theorem batch_singleton_opened {input : String} {place : List String}
    (h : world.files.opens? options input = some place) :
    let after := (world.batch options [input]).2.files
    ∃ code, world.files.code? options input = some code ∧
      after.resolve (Path.target options.directory input) = .ok place ∧
        after.find? place = some (.file (world.files.share place code.toUTF8)) ∧
          Turn.isConverted options ⟨world, input⟩ =
            (world.files.breaks? place code.toUTF8).isNone := by
  obtain ⟨opened, _, _, _, hturn, hopened, hdone, hfiles, -⟩ :=
    batch_singleton world options input
  rw [hdone, hfiles]
  obtain rfl : opened = some place := hopened.symm.trans h
  cases hturn with
  | opened hstdout hcode hmade hopens =>
      refine ⟨_, hcode, (Files.keepsDirectories_put hopens.free _).resolve hopens.target, ?_, rfl⟩
      rw [Files.find?_put _ (Files.ne_root_of_find? hopens.free), if_pos rfl]

/-- With writing, no input is converted without a place that is opened for its code. -/
theorem isSome_opens?_of_isConverted (h : options.toStdout = false) {input : String}
    (hdone : Turn.isConverted options ⟨world, input⟩ = true) :
    (world.files.opens? options input).isSome := by
  obtain ⟨_, _, _, _, hturn, hopened, hdone', -, -⟩ := batch_singleton world options input
  rw [hdone] at hdone'
  rw [hopened]
  cases hturn with
  | unconverted hcode => cases hdone'
  | printed hstdout => simp [h] at hstdout
  | unopened hstdout => cases hdone'
  | opened hstdout => rfl

/-- A turn changes nothing but the place that it opens and what lies on the way there. -/
theorem batch_singleton_kept {input : String} {place : List String}
    (hplace : world.files.opens? options input ≠ some place) :
    world.files.KeptOrMade (world.batch options [input]).2.files place
      ((world.files.code? options input).isSome ∧
        place ∈ world.files.way (Path.target options.directory input)) := by
  obtain ⟨_, _, _, _, hturn, hopened, -, hfiles, -⟩ := batch_singleton world options input
  rw [hfiles]
  rw [hopened] at hplace
  cases hturn with
  | unconverted hcode => exact .inl rfl
  | printed hstdout => exact .inl rfl
  | unopened hstdout hcode hmade =>
      exact (hmade.entries place).imp fun hway => ⟨by simp [hcode], hway⟩
  | @opened code made target hstdout hcode hmade hopens =>
      have hne : place ≠ target := fun heq => hplace (congrArg some heq.symm)
      refine ((hmade.entries place).imp fun hway => ⟨by simp [hcode], hway⟩).trans (.inl ?_)
      rw [Files.find?_put _ (Files.ne_root_of_find? hopens.free), if_neg hne]

theorem printed_batch (h : options.toStdout = false) (world : World) (inputs : List String) :
    (world.batch options inputs).2.printed = world.printed := by
  induction inputs generalizing world with
  | nil => rfl
  | cons input inputs ih =>
      obtain ⟨_, _, _, _, hturn, -, -, -, hprinted⟩ := batch_singleton world options input
      rw [batch_cons]
      dsimp only
      rw [ih, hprinted]
      cases hturn with
      | unconverted hcode => exact String.append_empty
      | printed hstdout => simp [h] at hstdout
      | unopened hstdout => exact String.append_empty
      | opened hstdout => exact String.append_empty

theorem getLast?_filter_cons (p : Turn → Bool) (turn : Turn) (turns : List Turn) :
    ((turn :: turns).filter p).getLast? =
      (turns.filter p).getLast?.or (if p turn = true then some turn else none) := by
  rw [List.filter_cons]
  cases hlast : (turns.filter p).getLast? <;> split <;> simp [List.getLast?_cons, hlast]

/-- What is at a place after the batch, by the last input for which it was opened. -/
theorem find?_batch (world : World) (options : Options) (inputs : List String)
    (place : List String) :
    let turns := world.turns options inputs
    let after := (world.batch options inputs).2.files
    match (turns.filter fun turn => turn.opens? options = some place).getLast? with
    | some turn => ∃ code, turn.code? options = some code ∧
        after.find? place = some (.file (world.files.share place code.toUTF8))
    | none => world.files.KeptOrMade after place
        (∃ turn ∈ turns, (turn.code? options).isSome ∧
          place ∈ world.files.way (turn.target options)) := by
  induction inputs generalizing world with
  | nil => exact .inl rfl
  | cons input inputs ih =>
      have hrest := ih (world.batch options [input]).2
      have hkeeps := keepsDirectories_batch world options [input]
      rw [batch_cons, turns_cons]
      dsimp only at hrest ⊢
      simp only [hkeeps.share_eq] at hrest
      generalize ((world.batch options [input]).2.batch options inputs).2.files = after at *
      generalize (world.batch options [input]).2.turns options inputs = turns at *
      rw [getLast?_filter_cons]
      cases hlast : (turns.filter fun turn => turn.opens? options = some place).getLast? with
      | some turn =>
          rw [hlast] at hrest
          exact hrest
      | none =>
          rw [hlast] at hrest
          rw [Option.none_or]
          by_cases hfirst : Turn.opens? options ⟨world, input⟩ = some place
          · rw [if_pos (decide_eq_true hfirst)]
            obtain ⟨code, hcode, -, hfind, -⟩ := batch_singleton_opened hfirst
            refine ⟨code, hcode, ?_⟩
            rcases hrest with heq | ⟨hnone, -, -⟩
            · rw [heq, hfind]
            · rw [hfind] at hnone
              cases hnone
          · rw [if_neg (mt of_decide_eq_true hfirst)]
            refine ((batch_singleton_kept hfirst).imp fun hway => ?_).trans
              (hrest.imp fun hway => ?_)
            · exact ⟨⟨world, input⟩, List.mem_cons_self .., hway⟩
            · obtain ⟨turn, hturn, hcode, hway⟩ := hway
              rw [hkeeps.way_eq] at hway
              exact ⟨turn, List.mem_cons_of_mem _ hturn, hcode, hway⟩

/-- A place that is opened in a batch is where the target of its input leads to in the end. -/
theorem resolve_of_opens? (world : World) (options : Options) (inputs : List String) :
    ∀ turn ∈ world.turns options inputs, ∀ place, turn.opens? options = some place →
      ∃ code, turn.code? options = some code ∧
        (world.batch options inputs).2.files.resolve (turn.target options) = .ok place ∧
          turn.isConverted options = (world.files.breaks? place code.toUTF8).isNone := by
  induction inputs generalizing world with
  | nil => simp
  | cons input inputs ih =>
      rw [batch_cons, turns_cons]
      refine List.forall_mem_cons.mpr ⟨fun place hplace => ?_, fun turn hturn place hplace => ?_⟩
      · obtain ⟨code, hcode, hresolve, -, hdone⟩ := batch_singleton_opened hplace
        exact ⟨code, hcode, (keepsDirectories_batch _ options inputs).resolve hresolve, hdone⟩
      · obtain ⟨code, hcode, hresolve, hdone⟩ := ih _ turn hturn place hplace
        rw [(keepsDirectories_batch world options [input]).breaks?] at hdone
        exact ⟨code, hcode, hresolve, hdone⟩

/-- A batch tells each of its inputs converted or failed, in order. An input that cannot be read or
converted changes nothing. What is printed is the codes of the converted inputs, and then no file
changes. Or else each place that is opened for a code is the target of its input, which is converted
unless the writing breaks off, and holds what got there of the last code; besides these places only
directories are new, on the way to the target of an input with code. -/
theorem batch_effects (world : World) (options : Options) (inputs : List String) :
    let turns := world.turns options inputs
    let converted := turns.filter (Turn.isConverted options)
    let summary := (world.batch options inputs).1
    let after := (world.batch options inputs).2
    (turns.map Turn.input = inputs ∧ summary.converted = converted.map Turn.input ∧
      summary.failed = (turns.filter fun turn => !turn.isConverted options).map Turn.input) ∧
    (∀ turn ∈ turns, turn.code? options = none → turn.isConverted options = false ∧
      (turn.world.batch options [turn.input]).2.files = turn.world.files) ∧
    if options.toStdout then
      after.files = world.files ∧ (∀ turn ∈ converted, (turn.code? options).isSome) ∧
        after.printed = world.printed ++ String.join (converted.filterMap (Turn.code? options))
    else
      after.printed = world.printed ∧ after.files.here = world.files.here ∧
        (∀ turn ∈ converted, (turn.opens? options).isSome) ∧
        (∀ turn ∈ turns, ∀ place, turn.opens? options = some place →
          ∃ code, turn.code? options = some code ∧
            after.files.resolve (turn.target options) = .ok place ∧
              turn.isConverted options = (world.files.breaks? place code.toUTF8).isNone) ∧
        ∀ place, match (turns.filter fun turn => turn.opens? options = some place).getLast? with
          | some turn => ∃ code, turn.code? options = some code ∧
              after.files.find? place = some (.file (world.files.share place code.toUTF8))
          | none => after.files.find? place = world.files.find? place ∨
              world.files.find? place = none ∧ after.files.find? place = some .directory ∧
                ∃ turn ∈ turns, (turn.code? options).isSome ∧
                  place ∈ world.files.way (turn.target options) := by
  intro turns converted summary after
  have hsummary : summary = _ := batch_summary world options inputs
  refine ⟨⟨map_input_turns .., by rw [hsummary], by rw [hsummary]⟩,
    fun turn _ hcode => files_batch_of_code?_eq_none hcode, ?_⟩
  by_cases hstdout : options.toStdout = true
  · rw [if_pos hstdout]
    obtain ⟨hfiles, hdone, hprinted⟩ := batch_toStdout hstdout world inputs
    refine ⟨hfiles, fun turn hturn => ?_, hprinted⟩
    obtain ⟨hmem, hconverted⟩ := List.mem_filter.mp hturn
    rw [← hdone turn hmem, hconverted]
  · rw [if_neg hstdout]
    rw [Bool.not_eq_true] at hstdout
    exact ⟨printed_batch hstdout .., (keepsDirectories_batch ..).here,
      fun turn hturn => isSome_opens?_of_isConverted hstdout (List.mem_filter.mp hturn).2,
      resolve_of_opens? world options inputs, find?_batch world options inputs⟩

/-- Where no writing breaks off, the files that a batch changes are the targets of converted inputs,
each with the code of the last one. -/
theorem batch_changes_only_targets (hstdout : options.toStdout = false)
    (hbreaks : ∀ place contents, world.files.breaks? place contents = none)
    (inputs : List String) (place : List String) :
    let turns := world.turns options inputs
    let after := (world.batch options inputs).2.files
    match (turns.filter fun turn => turn.isConverted options ∧
        after.resolve (turn.target options) = .ok place).getLast? with
    | some turn => ∃ code, turn.code? options = some code ∧
        after.find? place = some (.file code.toUTF8)
    | none => world.files.KeptOrMade after place
        (∃ turn ∈ turns, (turn.code? options).isSome ∧
          place ∈ world.files.way (turn.target options)) := by
  intro turns after
  have hopened : ∀ turn ∈ turns, decide (turn.isConverted options = true ∧
      after.resolve (turn.target options) = .ok place) =
        decide (turn.opens? options = some place) := by
    intro turn hturn
    have hresolve := resolve_of_opens? world options inputs turn hturn
    rw [decide_eq_decide]
    constructor
    · rintro ⟨hdone, htarget⟩
      obtain ⟨opened, hopened⟩ := Option.isSome_iff_exists.mp
        (isSome_opens?_of_isConverted hstdout hdone)
      obtain ⟨-, -, htarget', -⟩ := hresolve opened hopened
      obtain rfl := Except.ok.inj (htarget'.symm.trans htarget)
      exact hopened
    · intro hopens
      obtain ⟨code, -, htarget, hdone⟩ := hresolve place hopens
      rw [hbreaks] at hdone
      exact ⟨hdone, htarget⟩
  rw [List.filter_congr hopened]
  have hfind := find?_batch world options inputs place
  simp only [Files.share_of_breaks?_eq_none (hbreaks _ _)] at hfind
  exact hfind

/-- An input whose writing breaks off has failed, but its target is no longer as it was: it holds the
part of the code that got there. -/
theorem batch_leaves_target_of_failed {input code : String} {place : List String} {n : Nat}
    {fault : FileFault} (hopens : world.files.opens? options input = some place)
    (hcode : world.files.code? options input = some code)
    (hbreaks : world.files.breaks? place code.toUTF8 = some (n, fault)) :
    let after := world.batch options [input]
    after.1 = { failed := [input] } ∧
      after.2.files.resolve (Path.target options.directory input) = .ok place ∧
        after.2.files.find? place = some (.file (code.toUTF8.extract 0 n)) := by
  obtain ⟨code', hcode', hresolve, hfind, hdone⟩ := batch_singleton_opened hopens
  obtain rfl := Option.some.inj (hcode'.symm.trans hcode)
  rw [hbreaks] at hdone
  refine ⟨?_, hresolve, ?_⟩
  · rw [summary_singleton, hdone]
    rfl
  · rw [hfind, Files.share, hbreaks]

-- A full disk: there was nothing at the target, and now there is an empty file.
example :
    let world : World := { files := {
      entries := [(["first.xml"], .file "<View/>".toUTF8)],
      breaks? := fun _ _ => some (0, .other "No space left on device (os error 28)") } }
    let after := world.batch {} ["first.xml"]
    after.1 = { failed := ["first.xml"] } ∧ world.files.read "first.kt" = .error .notFound ∧
      after.2.files.read "first.kt" = .ok "" := by
  decide +kernel

end World

end LayoutCompose
