import LayoutCompose.Compose.Misfit
import LayoutCompose.Kotlin.Name
import LayoutCompose.Note

/-!
The references under which the children of a constraint group are tied to each other.

A child needs a reference if it is shown and has an identifier or ties of its own. The name of
the reference is made from the identifier; where that is no name, or there is no identifier, a
numbered name is taken that no other child has.
-/

namespace LayoutCompose.Compose

/-- The references of the children of a group: the name for each child in order, and the name
for each identifier. -/
structure References where
  names : List (Option String)
  ids : List (String × Option String)
  deriving DecidableEq, Repr

namespace References

/-- Whether a view has to be tied or may be tied to. -/
def isNeeded (v : View) : Bool :=
  !v.isGone && (v.id.isSome || !v.frame.constraints.isEmpty)

/-- The name made from the identifier of a view, given the names that are taken. -/
def nameOfId (taken : List String) (v : View) (id : String) :
    Noted Error (Option String) :=
  let name := Kotlin.variableName id
  if v.isGone then pure none
  else if !Kotlin.isVariableName name then do
    .note (.unspellableId id)
    return none
  else if name = "parent" then .error ⟨v.kind, v.id, .parentName⟩
  else if taken.contains name then .error ⟨v.kind, v.id, .takenName name⟩
  else pure (some name)

/-- The names made from identifiers, given the identifiers seen and the names taken before. -/
def namesOfIds : (seen taken : List String) → List View → Noted Error (List (Option String))
  | _, _, [] => pure []
  | seen, taken, v :: vs =>
    match v.id with
    | none => do return none :: (← namesOfIds seen taken vs)
    | some id =>
      if seen.contains id then .error ⟨v.kind, v.id, .duplicateId id⟩
      else do
        let name ← nameOfId taken v id
        return name :: (← namesOfIds (id :: seen) (name.toList ++ taken) vs)

def numbered (n : Nat) : String :=
  "ref" ++ toString n

/-- The least number from `n` on whose name is not taken. One of the next few is free, since
they are more than the names taken. -/
def freeNumber (taken : List String) (n : Nat) : Nat :=
  n + ((List.range (taken.length + 1)).find? fun k => !taken.contains (numbered (n + k))).getD 0

/-- Adds numbered names where they are needed, the numbers going up from `n`. -/
def complete : (n : Nat) → (taken : List String) → List (View × Option String) →
    List (Option String)
  | _, _, [] => []
  | n, taken, (_, some name) :: rest => some name :: complete n taken rest
  | n, taken, (v, none) :: rest =>
    if isNeeded v then
      let k := freeNumber taken n
      some (numbered k) :: complete (k + 1) (numbered k :: taken) rest
    else none :: complete n taken rest

def namedIds : List (View × Option String) → List (String × Option String)
  | [] => []
  | (v, name) :: rest =>
    match v.id with
    | some id => (id, name) :: namedIds rest
    | none => namedIds rest

def ofChildren (children : List View) : Noted Error References := do
  let fromIds ← namesOfIds [] [] children
  let names := complete 0 (fromIds.filterMap fun name => name) (children.zip fromIds)
  return ⟨names, namedIds (children.zip names)⟩

def declared (refs : References) : List String :=
  refs.names.filterMap fun name => name

def nameAt (refs : References) (i : Nat) : Option String :=
  (refs.names[i]?).join

end References

end LayoutCompose.Compose
