/-!
Calls of functions with named arguments, and chains of modifiers.
-/

namespace LayoutCompose.Kotlin

/-- The calls that modify how a view is laid out and drawn, in the order they apply. -/
structure Chain where
  calls : List String := []
  deriving DecidableEq, Repr, Inhabited

namespace Chain

def push (chain : Chain) (call : String) : Chain :=
  ⟨chain.calls ++ [call]⟩

def isEmpty (chain : Chain) : Bool :=
  chain.calls.isEmpty

/-- The expression of a chain; an empty one is left out. -/
def text? (chain : Chain) : Option String :=
  if chain.isEmpty then none
  else some (chain.calls.foldl (fun text call => text ++ "." ++ call) "Modifier")

end Chain

structure Call where
  name : String
  arguments : List String := []
  deriving DecidableEq, Repr

namespace Call

def arg (call : Call) (name value : String) : Call :=
  { call with arguments := call.arguments ++ [name ++ " = " ++ value] }

def argOf (call : Call) (name : String) (value : Option String) : Call :=
  match value with
  | some value => call.arg name value
  | none => call

def modified (call : Call) (chain : Chain) : Call :=
  call.argOf "modifier" chain.text?

/-- Says that a view is disabled; nothing is said of an enabled one. -/
def enabled (call : Call) (enabled : Bool) : Call :=
  if enabled then call else call.arg "enabled" "false"

def text (call : Call) : String :=
  call.name ++ "(" ++ ", ".intercalate call.arguments ++ ")"

/-- The call in front of a block, where empty parentheses are left out. -/
def header (call : Call) : String :=
  if call.arguments.isEmpty then call.name else call.text

end Call

end LayoutCompose.Kotlin
