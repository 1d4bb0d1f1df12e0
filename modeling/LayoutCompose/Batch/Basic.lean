import LayoutCompose.Batch.Files
import LayoutCompose.Compose.View
import LayoutCompose.Document.Reading
import LayoutCompose.Kotlin.Screen

/-!
Converting layouts to code, one by one and in batches.

A batch goes through its inputs in order. An input that cannot be read, converted or written is
reported and left behind. What a batch needs of the world around it is given to it as a host, so
that it runs on a real file system as on a tree of files in memory.
-/

namespace LayoutCompose

/-- Why a layout has no code. -/
inductive ConversionError
  | document (e : Document.Error)
  | compose (e : Compose.Error)
  deriving DecidableEq, Repr

def ConversionError.message : ConversionError → String
  | document e => e.message
  | compose e => e.message

structure Options where
  directory : Option String := none
  complete : Bool := false
  strict : Bool := false
  toStdout : Bool := false
  deriving DecidableEq, Repr

/-- The code of a document; as a complete file, if asked for, with a function of the given
name. -/
def convert (options : Options) (source name : String) : Noted ConversionError String := do
  let layout ← (Layout.read options.strict source).mapError .document
  let body ← (layout.compose (if options.complete then 1 else 0)).mapError .compose
  return if options.complete then Kotlin.screen name body else body

inductive Message
  | print (text : String)
  | complaint (input reason : String)
  | note (note : Note)
  | failure (failed total : Nat)
  deriving DecidableEq, Repr

/-- The world around a batch. -/
structure Host (m : Type → Type) where
  read : String → m (Except FileFault String)
  makeDirectory : String → m (Except FileFault Unit)
  isDirectory : String → m Bool
  write : (path text : String) → m (Except FileFault Unit)
  say : Message → m Unit

structure Summary where
  converted : List String := []
  failed : List String := []
  deriving DecidableEq, Repr

namespace Batch

variable {m : Type → Type} [Monad m]

def fileReason (verb path : String) (fault : FileFault) : String :=
  "failed to " ++ verb ++ " " ++ path ++ ": " ++ fault.message

/-- What comes of an attempt to make a directory: one that is there already will do. -/
def settle (host : Host m) (path : String) :
    Except FileFault Unit → m (Except FileFault Unit)
  | .ok () => return .ok ()
  | .error fault => do
    if ← host.isDirectory path then return .ok () else return .error fault

/-- Makes the first of the given paths a directory, where each path lies in the next one. Those
are made only if it cannot be made without them. -/
def makeDirectories (host : Host m) : List String → m (Except FileFault Unit)
  | [] => return .error (.other "failed to create whole tree")
  | path :: above => do
    if path = "" then return .ok ()
    else
      match ← host.makeDirectory path with
      | .error .notFound =>
        match ← makeDirectories host above with
        | .error fault => return .error fault
        | .ok () => settle host path (← host.makeDirectory path)
      | made => settle host path made

/-- Delivers code: prints it, or writes it to a file whose directory is made if need be. -/
def deliver (host : Host m) (options : Options) (path code : String) :
    m (Except String Unit) := do
  if options.toStdout then
    host.say (.print code)
    return .ok ()
  else
    let directory := (Path.parent? path).getD ""
    match ← makeDirectories host (Path.ancestors directory) with
    | .error fault => return .error (fileReason "create" directory fault)
    | .ok () =>
      match ← host.write path code with
      | .error fault => return .error (fileReason "write" path fault)
      | .ok () => return .ok ()

def sayNotes (host : Host m) : List Note → m Unit
  | [] => pure ()
  | n :: ns => do
    host.say (.note n)
    sayNotes host ns

/-- Converts one file and delivers the code; the answer is the path it was delivered to. -/
def convertFile (host : Host m) (options : Options) (input : String) :
    m (Except String String) := do
  match ← host.read input with
  | .error fault => return .error (fileReason "read" input fault)
  | .ok source =>
    let code := convert options source (Path.screenName input)
    sayNotes host code.notes
    match code.result with
    | .error e => return .error e.message
    | .ok code =>
      let path := Path.target options.directory input
      match ← deliver host options path code with
      | .error reason => return .error reason
      | .ok () => return .ok path

def run (host : Host m) (options : Options) : List String → m Summary
  | [] => return {}
  | input :: inputs => do
    match ← convertFile host options input with
    | .ok path =>
      host.say (.note (.converted input path))
      let rest ← run host options inputs
      return { rest with converted := input :: rest.converted }
    | .error reason =>
      host.say (.complaint input reason)
      let rest ← run host options inputs
      return { rest with failed := input :: rest.failed }

end Batch

structure World where
  files : Files
  said : List Message := []

/-- The host that works on a world in memory. -/
def World.host : Host (StateM World) where
  read path := do return (← get).files.read path
  makeDirectory path := modifyGet fun world =>
    match world.files.makeDirectory path with
    | .ok files => (.ok (), { world with files })
    | .error fault => (.error fault, world)
  isDirectory path := do return (← get).files.isDirectory path
  write path text := modifyGet fun world =>
    let (result, files) := world.files.write path text
    (result, { world with files })
  say message := modify fun world => { world with said := world.said ++ [message] }

end LayoutCompose
