import LayoutCompose.Text.Blank

/-!
References to resources, `@kind/name` for those of the application and `@android:kind/name` for
those of the framework.
-/

namespace LayoutCompose

structure Reference where
  framework : Bool
  kind : String
  name : String
  deriving DecidableEq, Repr

namespace Reference

def readPath? (framework : Bool) (cs : List Char) : Option Reference :=
  (Text.cut? ['/'] cs).bind fun (kind, name) =>
    if !kind.isEmpty && kind.all Char.isLower && Text.isName name then
      some ⟨framework, String.ofList kind, String.ofList name⟩
    else none

/-- Reads `@`, an optional `+`, an optional `android:`, a kind in lower case letters, `/` and a
name. White space around the whole is ignored. -/
def read? (s : String) : Option Reference :=
  match Text.trim s.toList with
  | '@' :: cs =>
    let cs := Text.dropHead ['+'] cs
    match Text.stripHead? "android:".toList cs with
    | some path => readPath? true path
    | none => readPath? false cs
  | _ => none

def ofKinds? (kinds : List String) (s : String) : Option Reference :=
  (read? s).filter fun r => kinds.contains r.kind

end Reference

end LayoutCompose
