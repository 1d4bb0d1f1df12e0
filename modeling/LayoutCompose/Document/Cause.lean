import LayoutCompose.Markup.Entity
import LayoutCompose.Markup.RawAttribute
import LayoutCompose.Text.Position
import LayoutCompose.Text.Quoted
import LayoutCompose.Value.Expectation

/-!
Why a document cannot be read.
-/

namespace LayoutCompose.Document

inductive Malformation
  | markup (fault : Markup.Fault)
  | tag (fault : Markup.AttributeFault)
  | entity (fault : Markup.EntityFault)
  | unclosed (element : String)
  | strayClose
  deriving DecidableEq, Repr

def Malformation.message : Malformation → String
  | markup fault => fault.message
  | tag fault => fault.message
  | entity fault => fault.message
  | unclosed element => "unexpected end of document: <" ++ element ++ "> is not closed"
  | strayClose => "unexpected closing tag"

inductive Cause
  | malformed (how : Malformation)
  | empty
  | multipleRoots
  | unknownTag (tag : String)
  | misplacedMerge
  | unknownAttribute (tag name : String)
  | duplicateAttribute (tag name : String)
  | missingAttribute (tag name : String)
  | invalidValue (tag name value : String) (expected : Expectation)
  | unexpectedChild (tag child : String)
  | unexpectedText (text : String)
  | unreadable
  deriving DecidableEq, Repr

def Cause.message : Cause → String
  | malformed how => "malformed XML: " ++ how.message
  | empty => "document contains no layout element"
  | multipleRoots => "more than one root element; wrap siblings in <merge>"
  | unknownTag tag => "unrecognized tag <" ++ tag ++ ">"
  | misplacedMerge => "<merge> is only allowed as the document element"
  | unknownAttribute tag name =>
    "unsupported attribute `" ++ name ++ "` on <" ++ tag ++ ">"
  | duplicateAttribute tag name =>
    "attribute `" ++ name ++ "` given more than once on <" ++ tag ++ ">"
  | missingAttribute tag name =>
    "<" ++ tag ++ "> requires attribute `" ++ name ++ "`"
  | invalidValue tag name value expected =>
    "invalid value " ++ Text.quoted value ++ " for `" ++ name ++ "` on <" ++ tag ++ ">: " ++
      expected.message
  | unexpectedChild tag child =>
    "<" ++ tag ++ "> cannot contain child views (found <" ++ child ++ ">)"
  | unexpectedText text => "unexpected text content " ++ Text.quoted text
  | unreadable => "could not read input: stream did not contain valid UTF-8"

/-- A cause and the place in the document where it was found, if it has one. -/
structure Error where
  cause : Cause
  position : Option Position
  deriving DecidableEq, Repr

def Error.message (e : Error) : String :=
  match e.position with
  | some p =>
    "parse error at " ++ toString p.line ++ ":" ++ toString p.column ++ ": " ++ e.cause.message
  | none => "parse error: " ++ e.cause.message

end LayoutCompose.Document
