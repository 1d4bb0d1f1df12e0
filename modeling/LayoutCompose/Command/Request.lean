import LayoutCompose.Batch.Basic

/-!
The arguments of the command line.
-/

namespace LayoutCompose

structure Command where
  inputs : List String := []
  options : Options := {}
  listing : Bool := false
  verbose : Bool := false
  deriving DecidableEq, Repr

/-- What comes of the arguments: a command, an answer about the program itself, or a mistake in
their use. -/
inductive Request
  | command (c : Command)
  | version
  | help
  | mistake
  deriving DecidableEq, Repr

namespace Command

/-- Sets the directory for the code. It may be set only once, and not to nothing. -/
def setDirectory (c : Command) (directory : String) : Except Request Command :=
  if c.options.directory.isSome ∨ directory = "" then .error .mistake
  else .ok { c with options := { c.options with directory := some directory } }

def addInput (c : Command) (input : String) : Except Request Command :=
  if input = "" then .error .mistake else .ok { c with inputs := c.inputs ++ [input] }

def setComplete (c : Command) : Except Request Command :=
  if c.options.complete then .error .mistake
  else .ok { c with options := { c.options with complete := true } }

def setStrict (c : Command) : Except Request Command :=
  if c.options.strict then .error .mistake
  else .ok { c with options := { c.options with strict := true } }

def setStdout (c : Command) : Except Request Command :=
  if c.options.toStdout then .error .mistake
  else .ok { c with options := { c.options with toStdout := true } }

def setListing (c : Command) : Except Request Command :=
  if c.listing then .error .mistake else .ok { c with listing := true }

def setVerbose (c : Command) : Except Request Command :=
  if c.verbose then .error .mistake else .ok { c with verbose := true }

def longFlag (c : Command) (name : List Char) : Except Request Command :=
  match String.ofList name with
  | "complete" => c.setComplete
  | "strict" => c.setStrict
  | "stdout" => c.setStdout
  | "list-widgets" => c.setListing
  | "verbose" => c.setVerbose
  | "version" => .error .version
  | "help" => .error .help
  | _ => .error .mistake

def shortFlag (c : Command) : Char → Except Request Command
  | 'c' => c.setComplete
  | 'v' => c.setVerbose
  | 'V' => .error .version
  | 'h' => .error .help
  | _ => .error .mistake

/-- Letters of flags in one argument. What follows `o` is its value; if nothing does, the value
is the next argument, and the answer says so. -/
def shortFlags (c : Command) : List Char → Except Request (Command × Bool)
  | [] => .ok (c, false)
  | 'o' :: [] => .ok (c, true)
  | 'o' :: cs => do return (← c.setDirectory (String.ofList (Text.dropHead ['='] cs)), false)
  | letter :: cs => do (← c.shortFlag letter).shortFlags cs

/-- A long option, with its value behind an equals sign, or else, for the one option that takes
a value, in the next argument. -/
def longOption (c : Command) (cs : List Char) : Except Request (Command × Bool) :=
  match Text.cut? ['='] cs with
  | some (name, value) =>
    if name = "output".toList then do
      return (← c.setDirectory (String.ofList value), false)
    else .error .mistake
  | none =>
    if cs = "output".toList then .ok (c, true)
    else do return (← c.longFlag cs, false)

def addInputs : (c : Command) → List String → Except Request Command
  | c, [] => .ok c
  | c, input :: inputs => do (← c.addInput input).addInputs inputs

/-- Takes arguments in order. If `pending`, the first one has to be the value of an option. -/
def parseFrom : (c : Command) → (pending : Bool) → List String → Except Request Command
  | c, pending, [] => if pending then .error .mistake else .ok c
  | c, pending, arg :: args =>
    match arg.toList with
    | ['-', '-'] => if pending then .error .mistake else c.addInputs args
    | '-' :: '-' :: cs =>
      if pending then .error .mistake
      else do
        let (c, pending) ← c.longOption cs
        c.parseFrom pending args
    | '-' :: d :: cs =>
      if pending then .error .mistake
      else do
        let (c, pending) ← c.shortFlags (d :: cs)
        c.parseFrom pending args
    | _ => do
      let c ← if pending then c.setDirectory arg else c.addInput arg
      c.parseFrom false args

end Command

/-- What comes of arguments. There has to be an input, unless the listing is asked for. -/
def Request.parse (args : List String) : Request :=
  match Command.parseFrom {} false args with
  | .error request => request
  | .ok c => if c.inputs.isEmpty && !c.listing then .mistake else .command c

end LayoutCompose
