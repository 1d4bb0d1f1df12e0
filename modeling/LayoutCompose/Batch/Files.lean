import LayoutCompose.Batch.Path

/-!
A tree of files with a current directory, and what can be done with it: to read a file, to make
directories and to write a file.

To write is two steps. The file is made, or emptied if it is there, and then it is filled; if that
breaks off, the file stays with the part that it has got.
-/

namespace LayoutCompose

inductive FileFault
  | notFound
  | notDirectory
  | alreadyExists
  | isDirectory
  | notText
  | nameTooLong
  | nulInName
  | other (text : String)
  deriving DecidableEq, Repr

def FileFault.message : FileFault → String
  | notFound => "No such file or directory (os error 2)"
  | alreadyExists => "File exists (os error 17)"
  | notDirectory => "Not a directory (os error 20)"
  | isDirectory => "Is a directory (os error 21)"
  | nameTooLong => "File name too long (os error 36)"
  | nulInName => "file name contained an unexpected NUL byte"
  | notText => "stream did not contain valid UTF-8"
  | other text => text

inductive Entry
  | file (contents : ByteArray)
  | directory

def Entry.isDirectory : Entry → Bool
  | file _ => false
  | directory => true

/-- Files and directories by their place, which is the list of names from the root. -/
structure Files where
  entries : List (List String × Entry) := []
  here : List String := []
  /-- How many bytes of new contents get to a place, where writing them breaks off, and why. -/
  breaks? : List String → ByteArray → Option (Nat × FileFault) := fun _ _ => none

namespace Files

def find? (files : Files) (place : List String) : Option Entry :=
  if place = [] then some .directory else files.entries.lookup place

def put (files : Files) (place : List String) (entry : Entry) : Files :=
  { files with entries := (place, entry) :: files.entries.filter fun e => e.1 != place }

/-- The place that a name leads to from a directory. -/
def step (place : List String) (name : String) : List String :=
  if name = "" ∨ name = "." then place
  else if name = ".." then place.dropLast
  else place ++ [name]

def maxName : Nat := 255

def maxPath : Nat := 4095

/-- The place that names lead to. All of them but the last have to be directories. -/
def walk (files : Files) : (place : List String) → (names : List String) →
    Except FileFault (List String)
  | place, [] => .ok place
  | place, [name] =>
    if maxName < name.utf8ByteSize then .error .nameTooLong else .ok (step place name)
  | place, name :: names =>
    if maxName < name.utf8ByteSize then .error .nameTooLong
    else
      match files.find? (step place name) with
      | some .directory => walk files (step place name) names
      | some (.file _) => .error .notDirectory
      | none => .error .notFound

def resolve (files : Files) (path : String) : Except FileFault (List String) :=
  if path.toList.any fun c => c.toNat == 0 then .error .nulInName
  else if maxPath < path.utf8ByteSize then .error .nameTooLong
  else
    match path.toList with
    | [] => .error .notFound
    | '/' :: cs => files.walk [] ((Text.pieces '/' cs).map String.ofList)
    | cs => files.walk files.here ((Text.pieces '/' cs).map String.ofList)

def read (files : Files) (path : String) : Except FileFault String :=
  match files.resolve path with
  | .error e => .error e
  | .ok place =>
    match files.find? place with
    | some (.file contents) =>
      match String.fromUTF8? contents with
      | some text => .ok text
      | none => .error .notText
    | some .directory => .error .isDirectory
    | none => .error .notFound

def isDirectory (files : Files) (path : String) : Bool :=
  match files.resolve path with
  | .ok place => (files.find? place).any Entry.isDirectory
  | .error _ => false

/-- A path without slashes at its end, except for the root. -/
def dropSlashes (path : String) : String :=
  match path.toList.reverse.dropWhile (· == '/') with
  | [] => if path = "" then "" else "/"
  | cs => String.ofList cs.reverse

def makeDirectory (files : Files) (path : String) : Except FileFault Files :=
  match files.resolve (dropSlashes path) with
  | .error e => .error e
  | .ok place =>
    match files.find? place with
    | some _ => .error .alreadyExists
    | none => .ok (files.put place .directory)

/-- Makes or empties the file at a path, and tells its place. -/
def create (files : Files) (path : String) : Except FileFault (List String × Files) :=
  match files.resolve path with
  | .error e => .error e
  | .ok place =>
    match files.find? place with
    | some .directory => .error .isDirectory
    | _ => .ok (place, files.put place (.file .empty))

/-- What gets to a place of new contents for it. -/
def share (files : Files) (place : List String) (contents : ByteArray) : ByteArray :=
  match files.breaks? place contents with
  | none => contents
  | some (n, _) => contents.extract 0 n

def fill (files : Files) (place : List String) (contents : ByteArray) :
    Except FileFault Unit × Files :=
  let filled := files.put place (.file (files.share place contents))
  match files.breaks? place contents with
  | none => (.ok (), filled)
  | some (_, fault) => (.error fault, filled)

def write (files : Files) (path text : String) : Except FileFault Unit × Files :=
  match files.create path with
  | .error e => (.error e, files)
  | .ok (place, emptied) => emptied.fill place text.toUTF8

end Files

end LayoutCompose
