import LayoutCompose.Document.Attributes
import LayoutCompose.Note
import LayoutCompose.View.Vocabulary

/-!
Reading a layout document.

The events of the document are taken one by one, with a stack of the elements that are open. A
view is built when its element begins and goes to its parent when the element ends. Where a
document is at fault, the first fault in document order is reported, with its place.
-/

namespace LayoutCompose

namespace Document

open Markup (Event Located RawAttribute Tag)

/-- The bare name of an attribute, unless its key says that it is not for us: keys of the
namespaces `xmlns` and `tools`. -/
def bareName? (key : List Char) : Option (List Char) :=
  if key = "xmlns".toList ∨ (Text.stripHead? "xmlns:".toList key).isSome then none
  else
    match Text.cut? [':'] key with
    | some (space, name) => if space = "tools".toList then none else some name
    | none => some key

/-- Adds an attribute to those of an element of a kind. One that the kind does not understand
is refused if `strict` and otherwise left out with a note. -/
def collect (strict : Bool) (kind : Kind) (attrs : Attributes) (raw : RawAttribute) :
    Noted Cause Attributes :=
  match bareName? raw.key with
  | none => pure attrs
  | some bare =>
    let name := String.ofList bare
    let key := String.ofList raw.key
    if attrs.contains name then .error (.duplicateAttribute attrs.tag name)
    else if (kind.entry? name).isNone then
      if strict then .error (.unknownAttribute attrs.tag key)
      else do
        .note (.ignoredAttribute key attrs.tag)
        return attrs
    else
      match Markup.decode raw.value with
      | .ok value => pure (attrs.push name (String.ofList value))
      | .error fault => .error (.malformed (.entity fault))

def collectAll (strict : Bool) (kind : Kind) :
    Attributes → List RawAttribute → Noted Cause Attributes
  | attrs, [] => pure attrs
  | attrs, raw :: raws => do
    let attrs ← collect strict kind attrs raw
    collectAll strict kind attrs raws

/-- The attributes of a tag. A flaw in the tag counts after the attributes in front of it. -/
def attributesOf (strict : Bool) (kind : Kind) (name : String) (tag : Tag) :
    Noted Cause Attributes := do
  let run := tag.attributes
  let attrs ← collectAll strict kind { tag := name } run.items
  match run.stop with
  | none => return attrs
  | some fault => .error (.malformed (.tag fault))

inductive Open
  | merge
  | view (tag : String) (view : View)

def Open.tag : Open → String
  | merge => "merge"
  | view tag _ => tag

/-- How far a document has been read: the open elements, innermost first, the finished roots,
and whether the document element has begun. -/
structure Session where
  stack : List Open := []
  roots : List View := []
  begun : Bool := false

namespace Session

/-- Gives a finished view to the innermost open group, or else to the roots. -/
def attach (s : Session) (v : View) : Session :=
  match s.stack with
  | .view tag (.group f g vs) :: stack =>
    { s with stack := .view tag (.group f g (vs ++ [v])) :: stack }
  | _ => { s with roots := s.roots ++ [v] }

def checkPlace (s : Session) (tag : String) : Except Cause Unit :=
  match s.stack with
  | [] => if s.begun then .error .multipleRoots else .ok ()
  | .view parent (.control ..) :: _ => .error (.unexpectedChild parent tag)
  | _ => .ok ()

def build (strict : Bool) (name : String) (tag : Tag) : Noted Cause View :=
  match Kind.ofTag? name with
  | none => .error (.unknownTag name)
  | some kind => do
    let attrs ← attributesOf strict kind name tag
    let v ← Noted.of (attrs.view kind)
    .note (.readElement name kind)
    return v

/-- Begins an element; an `empty` one ends at once. -/
def enter (strict : Bool) (s : Session) (tag : Tag) (empty : Bool) : Noted Cause Session :=
  let name := String.ofList tag.name
  if name = "merge" then
    if s.begun then .error .misplacedMerge
    else pure { s with begun := true, stack := if empty then s.stack else .merge :: s.stack }
  else do
    Noted.of (s.checkPlace name)
    let v ← build strict name tag
    let s := { s with begun := true }
    return if empty then s.attach v else { s with stack := .view name v :: s.stack }

def leave (s : Session) : Except Cause Session :=
  match s.stack with
  | [] => .error (.malformed .strayClose)
  | .merge :: stack => .ok { s with stack }
  | .view _ v :: stack => .ok ({ s with stack }.attach v)

def step (strict : Bool) (s : Session) : Event → Noted Cause Session
  | .start tag => s.enter strict tag false
  | .empty tag => s.enter strict tag true
  | .close => .of s.leave
  | .text content =>
    if content.all Text.isAsciiBlank then pure s
    else .error (.unexpectedText (String.ofList (Text.trim content)))
  | .cdata => .error (.unexpectedText "<![CDATA[...]]>")
  | .aside => pure s

/-- Takes events in order. A cause is located by the offset of its event. -/
def run (strict : Bool) : Session → List (Located Event) → Noted (Located Cause) Session
  | s, [] => pure s
  | s, e :: es => do
    let s ← (s.step strict e.value).mapError (Located.mk e.offset)
    run strict s es

/-- The layout of a document of `length` bytes that has been read to its end. -/
def finish (s : Session) (length : Nat) : Except (Located Cause) Layout :=
  match s.stack with
  | e :: _ => .error ⟨length, .malformed (.unclosed e.tag)⟩
  | [] => if s.begun then .ok ⟨s.roots⟩ else .error ⟨0, .empty⟩

end Session

/-- The mark that may stand at the beginning of a document to show its encoding. -/
def byteOrderMark : Char := '\ufeff'

/-- The layout of a document of `length` bytes, from its events. -/
def ofEvents (strict : Bool) (length : Nat) (run : Run (Located Markup.Fault) (Located Event)) :
    Noted (Located Cause) Layout := do
  let s ← Session.run strict {} run.items
  match run.stop with
  | some fault => .error ⟨fault.offset, .malformed (.markup fault.value)⟩
  | none => .of (s.finish length)

/-- Reads a document without its mark. A second mark in front of the markup is passed over, and
offsets are counted from behind it. -/
def readUnmarked (strict : Bool) (source : List Char) : Noted (Located Cause) Layout :=
  ofEvents strict (Text.byteLength source)
    (Markup.events (Text.dropHead [byteOrderMark] source))

end Document

namespace Layout

/-- Reads a layout document. If `strict`, attributes outside the vocabulary are refused. -/
def read (strict : Bool) (source : String) : Noted Document.Error Layout :=
  let source := Text.dropHead [Document.byteOrderMark] source.toList
  (Document.readUnmarked strict source).mapError fun e =>
    ⟨e.value, some (Position.ofOffset source e.offset)⟩

def readBytes (strict : Bool) (bytes : ByteArray) : Noted Document.Error Layout :=
  match String.fromUTF8? bytes with
  | some source => read strict source
  | none => .error ⟨.unreadable, none⟩

end Layout

end LayoutCompose
