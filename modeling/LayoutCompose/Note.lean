import LayoutCompose.View.Kind

/-!
Notes on what happens to a document, and computations that take notes.

Notes are kept also when a computation fails. The result of a sequence of computations depends
on the results of its parts alone, so that statements about results need not speak of notes.
-/

namespace LayoutCompose

inductive Level
  | error
  | warn
  | info
  | debug
  | trace
  deriving DecidableEq, Repr

def Level.name : Level → String
  | error => "ERROR"
  | warn => "WARN"
  | info => "INFO"
  | debug => "DEBUG"
  | trace => "TRACE"

inductive Note
  | ignoredAttribute (key tag : String)
  | readElement (tag : String) (kind : Kind)
  | skipped (kind : Kind)
  | unspellableId (id : String)
  | ignoredConstraints (kind : Kind)
  | invisibleInclusion (layout : String)
  | converted (input target : String)
  | finished (done failed : Nat)
  | listening (filter : String)
  deriving DecidableEq, Repr

namespace Note

def level : Note → Level
  | ignoredAttribute .. => .warn
  | converted .. | finished .. => .info
  | _ => .debug

def speaker : Note → String
  | ignoredAttribute .. | readElement .. => "recast_markup::parser"
  | skipped _ | unspellableId _ | ignoredConstraints _ | invisibleInclusion _ =>
    "recast_compose::composer"
  | converted .. => "recast_cli"
  | finished .. => "recast"
  | listening _ => "recast_cli::logging"

def message : Note → String
  | ignoredAttribute key tag =>
    "ignoring unsupported attribute `" ++ key ++ "` on <" ++ tag ++ ">"
  | readElement tag kind => "parsed <" ++ tag ++ "> as " ++ kind.name
  | skipped kind => "skipping " ++ kind.name ++ " with visibility gone"
  | unspellableId id => "id `" ++ id ++ "` has no Kotlin spelling; using a generated reference"
  | ignoredConstraints kind =>
    kind.name ++ ": constraints ignored outside a ConstraintLayout"
  | invisibleInclusion layout =>
    "include `" ++ layout ++ "`: invisible has no counterpart on a call"
  | converted input target => input ++ " -> " ++ target
  | finished done failed =>
    toString done ++ " translated, " ++ toString failed ++ " failed"
  | listening filter => "logging initialized with `" ++ filter ++ "`"

end Note

/-- A result together with the notes taken on the way to it. -/
structure Noted (ε α : Type) where
  notes : List Note
  result : Except ε α

namespace Noted

variable {ε α β : Type}

def ok (a : α) : Noted ε α := ⟨[], .ok a⟩

def error (e : ε) : Noted ε α := ⟨[], .error e⟩

def of (result : Except ε α) : Noted ε α := ⟨[], result⟩

def note (n : Note) : Noted ε Unit := ⟨[n], .ok ()⟩

def bind (x : Noted ε α) (f : α → Noted ε β) : Noted ε β :=
  match x.result with
  | .error e => ⟨x.notes, .error e⟩
  | .ok a => ⟨x.notes ++ (f a).notes, (f a).result⟩

instance : Monad (Noted ε) where
  pure := ok
  bind := bind

def mapError {δ : Type} (f : ε → δ) (x : Noted ε α) : Noted δ α :=
  ⟨x.notes, x.result.mapError f⟩

@[simp] theorem result_pure (a : α) : (pure a : Noted ε α).result = .ok a := rfl

@[simp] theorem result_bind (x : Noted ε α) (f : α → Noted ε β) :
    (x >>= f).result = x.result.bind fun a => (f a).result := by
  change (bind x f).result = _
  unfold bind
  cases x.result <;> rfl

@[simp] theorem result_note (n : Note) : (note n : Noted ε Unit).result = .ok () := rfl

@[simp] theorem result_of (r : Except ε α) : (of r).result = r := rfl

end Noted

end LayoutCompose
