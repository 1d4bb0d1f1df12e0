import LayoutCompose.Command.Program

/-!
The command on the real file system.
-/

namespace LayoutCompose

/-- The number of an error of the system, which may come with a negative sign. -/
def errorNumber (code : UInt32) : UInt32 :=
  min code (0 - code)

def faultOf : IO.Error → FileFault
  | .noFileOrDirectory .. => .notFound
  | .alreadyExists .. => .alreadyExists
  | .invalidArgument _ code text => if errorNumber code = 36 then .nameTooLong else .other text
  | .inappropriateType _ code _ => if errorNumber code = 20 then .notDirectory else .isDirectory
  | e => .other (toString e)

def attempt {α : Type} (action : IO α) : IO (Except FileFault α) := do
  try
    return .ok (← action)
  catch e => return .error (faultOf e)

/-- The host that works on the real file system and shows what is said at once. -/
def systemHost (style : LogStyle) : Host IO where
  read path := do
    match ← attempt (IO.FS.readBinFile path) with
    | .error fault => return .error fault
    | .ok bytes =>
      match String.fromUTF8? bytes with
      | some text => return .ok text
      | none => return .error .notText
  makeDirectory path := attempt (IO.FS.createDir path)
  isDirectory path := do return ← ((← IO.currentDir) / path).isDir
  write path text := attempt (IO.FS.writeFile path text)
  say message := do
    IO.print message.stdout
    IO.eprint (message.stderr style)

end LayoutCompose

open LayoutCompose in
def main (args : List String) : IO UInt32 := do
  let environment ← IO.getEnv "RUST_LOG"
  let request := Request.parse args
  let style :=
    match request with
    | .command c => Program.logStyle c environment
    | _ => ⟨⟨[]⟩, false⟩
  if request = .mistake then IO.eprint Program.helpText
  let code ← Program.run (systemHost style) environment request
  return UInt32.ofNat code
