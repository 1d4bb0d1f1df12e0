import LayoutCompose.Note
import LayoutCompose.Text.Blank

/-!
Which notes are shown.

A filter is a list of directives separated by commas, each a level for all speakers or `name=level`
for the speakers whose name begins so. The directive with the longest name decides.
-/

namespace LayoutCompose

/-- The notes of a level and of those above it in gravity; none at all where there is no
level. -/
structure Directive where
  name : String
  level : Option Level
  deriving DecidableEq, Repr

structure Filter where
  directives : List Directive
  deriving DecidableEq, Repr

def Level.rank : Level → Nat
  | error => 1
  | warn => 2
  | info => 3
  | debug => 4
  | trace => 5

/-- Reads a level in any case; `off` is none. -/
def Level.read? (s : List Char) : Option (Option Level) :=
  match String.ofList (s.map Char.toLower) with
  | "off" => some none
  | "error" => some (some error)
  | "warn" => some (some warn)
  | "info" => some (some info)
  | "debug" => some (some debug)
  | "trace" => some (some trace)
  | _ => none

/-- Reads one directive. A lone name asks for all notes of its speakers. -/
def Directive.read? (s : List Char) : Option Directive :=
  match Text.pieces '=' s with
  | [word] =>
    match Level.read? word with
    | some level => some ⟨"", level⟩
    | none => some ⟨String.ofList word, some .trace⟩
  | [name, level] =>
    let level := Text.trim level
    if level.isEmpty then some ⟨String.ofList name, some .trace⟩
    else (Level.read? level).map fun level => ⟨String.ofList name, level⟩
  | _ => none

namespace Filter

/-- Adds a directive in place of one for the same name. -/
def insert (filter : Filter) (d : Directive) : Filter :=
  ⟨filter.directives.filter (fun e => e.name != d.name) ++ [d]⟩

/-- Reads a filter. An empty one lets errors pass. -/
def read (s : String) : Filter :=
  let words := ((Text.pieces ',' s.toList).map Text.trim).filter fun w => !w.isEmpty
  let filter := (words.filterMap Directive.read?).foldl insert ⟨[]⟩
  if filter.directives.isEmpty then ⟨[⟨"", some .error⟩]⟩ else filter

/-- The directive for a speaker: of those whose name its name begins with, the one with the
longest name. -/
def directiveFor? (filter : Filter) (speaker : String) : Option Directive :=
  filter.directives.foldl
    (fun best d =>
      if (Text.stripHead? d.name.toList speaker.toList).isNone then best
      else
        match best with
        | some b => if b.name.length ≤ d.name.length then some d else best
        | none => some d)
    none

def shows (filter : Filter) (n : Note) : Bool :=
  match filter.directiveFor? n.speaker with
  | some ⟨_, some level⟩ => n.level.rank ≤ level.rank
  | _ => false

def usual (verbose : Bool) : String :=
  if verbose then
    "warn,recast_markup=debug,recast_compose=debug,recast_cli=debug,recast=debug"
  else "warn,recast_markup=info,recast_compose=info,recast_cli=info,recast=info"

end Filter

end LayoutCompose
