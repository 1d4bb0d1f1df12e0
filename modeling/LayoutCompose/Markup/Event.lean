import LayoutCompose.Markup.Token

/-!
The events of a document: elements that begin and end, and what stands between them.

Each event is located by the offset, in bytes, at which reading for it began; that is just
after the event before it, in front of any white space. The names of the open elements are
kept, so that a closing tag is an event only where it closes the innermost one.
-/

namespace LayoutCompose.Markup

structure Located (α : Type) where
  offset : Nat
  value : α
  deriving DecidableEq, Repr

/-- An opening tag: its name, and the rest of it, which holds the attributes. -/
structure Tag where
  name : List Char
  rest : List Char
  deriving DecidableEq, Repr

def Tag.ofContent (content : List Char) : Tag :=
  ⟨content.takeWhile fun c => !isSpace c, content.dropWhile fun c => !isSpace c⟩

inductive Event
  | start (tag : Tag)
  | empty (tag : Tag)
  | close
  | text (content : List Char)
  | cdata
  | aside
  deriving DecidableEq, Repr

/-- The name in a closing tag, without the white space behind it. White space alone is kept. -/
def closingName (content : List Char) : List Char :=
  if content.all isSpace then content else (content.reverse.dropWhile isSpace).reverse

/-- The events of a list of tokens. Reading for the first of them began at `start`, and its
token stands at `here`; `names` are the open elements, innermost first, and `stop` is the fault
behind the last token. -/
def eventsFrom (stop : Option Fault) :
    (start here : Nat) → (names : List (List Char)) → List Token →
      Run (Located Fault) (Located Event)
  | _, here, _, [] => ⟨[], stop.map (Located.mk here)⟩
  | start, here, names, t :: ts =>
    let after := here + Text.byteLength t.source
    match t with
    | .text content =>
      if content.all isSpace then eventsFrom stop start after names ts
      else .cons ⟨start, .text content⟩ (eventsFrom stop after after names ts)
    | .opening content =>
      if content.getLast? = some '/' then
        .cons ⟨start, .empty (Tag.ofContent content.dropLast)⟩
          (eventsFrom stop after after names ts)
      else
        let tag := Tag.ofContent content
        .cons ⟨start, .start tag⟩ (eventsFrom stop after after (tag.name :: names) ts)
    | .closing content =>
      let found := closingName content
      match names with
      | [] => .fail ⟨here, .unopened (String.ofList found)⟩
      | name :: names =>
        if name = found then .cons ⟨start, .close⟩ (eventsFrom stop after after names ts)
        else .fail ⟨here, .mismatched (String.ofList name) (String.ofList found)⟩
    | .doctype content =>
      if (content.drop 7).all isSpace then .fail ⟨after - 1, .namelessDoctype⟩
      else .cons ⟨start, .aside⟩ (eventsFrom stop after after names ts)
    | .cdata _ => .cons ⟨start, .cdata⟩ (eventsFrom stop after after names ts)
    | .comment _ | .instruction _ =>
      .cons ⟨start, .aside⟩ (eventsFrom stop after after names ts)

def events (source : List Char) : Run (Located Fault) (Located Event) :=
  let run := tokens source
  eventsFrom run.stop 0 0 [] run.items

end LayoutCompose.Markup
