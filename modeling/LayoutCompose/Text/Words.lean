import LayoutCompose.Text.LetterCase
import LayoutCompose.Text.Marks

/-!
The words of an identifier, and identifiers made of words.

A text is first cut into clusters, a character with the marks attached to it, or pictographs
with joiners between them. Spaces, hyphens and underscores separate words; besides, a word ends
where the case rises, where letters and digits meet, and before the last capital of a run that a
small letter follows.
-/

namespace LayoutCompose.Text

abbrev Cluster := List Char

/-- What stands at the end of a cluster, as far as it decides what else belongs to it. -/
inductive Tail
  | plain
  | isolated
  | prepended
  | pictograph
  | joined
  deriving DecidableEq, Repr

namespace Tail

/-- The end of a cluster after one more character. A pictograph stays one through the marks on it,
and is joined by a joiner right behind them. -/
def after (tail : Tail) (c : Char) : Tail :=
  if isPictograph c then pictograph
  else if isIsolated c then isolated
  else if isPrepended c then prepended
  else if tail = pictograph && isJoiner c then joined
  else if tail = pictograph && (isExtending c || isTone c) then pictograph
  else plain

def takes (tail : Tail) (c : Char) : Bool :=
  (tail != isolated && isAttached c) || (tail = prepended && !isIsolated c) ||
    (tail = joined && isPictograph c)

end Tail

/-- The clusters of the rest of a text, given the end of what stands before it. -/
def clustersFrom : Tail → List Char → List Cluster
  | _, [] => []
  | tail, c :: cs =>
    match clustersFrom (tail.after c) cs with
    | [] => [[c]]
    | g :: gs => if cs.head?.any (tail.after c).takes then (c :: g) :: gs else [c] :: g :: gs

def clusters (cs : List Char) : List Cluster :=
  clustersFrom .plain cs

namespace Cluster

def toUpper (g : Cluster) : List Char := upperText g

def toLower (g : Cluster) : List Char := lowerText g

def isUpper (g : Cluster) : Bool :=
  g.toUpper != g.toLower && g == g.toUpper

def isLower (g : Cluster) : Bool :=
  g.toUpper != g.toLower && g == g.toLower

def isDigit (g : Cluster) : Bool :=
  List.all g Char.isDigit

def isSeparator (g : Cluster) : Bool :=
  g == ['_'] || g == ['-'] || g == [' ']

end Cluster

/-- Whether a word ends between two neighbouring clusters. -/
def endsBetween (g h : Cluster) : Bool :=
  (g.isLower && h.isUpper) || (g.isUpper && h.isDigit) || (g.isDigit && h.isUpper) ||
    (g.isDigit && h.isLower) || (g.isLower && h.isDigit)

def endsBefore (g : Cluster) : List Cluster → Bool
  | h :: i :: _ => endsBetween g h || (g.isUpper && h.isUpper && i.isLower)
  | [h] => endsBetween g h
  | [] => false

/-- The words of a list of clusters; some of them may be empty. -/
def wordsOf : List Cluster → List (List Char)
  | [] => [[]]
  | g :: gs =>
    if g.isSeparator then [] :: wordsOf gs
    else
      match wordsOf gs with
      | [] => [g]
      | w :: ws => if endsBefore g gs then g :: w :: ws else (g ++ w) :: ws

def words (cs : List Char) : List (List Char) :=
  (wordsOf (clusters cs)).filter fun w => !w.isEmpty

/-- A word with its first character in upper and the others in lower case. -/
def capitalize : List Char → List Char
  | [] => []
  | c :: cs => upper c ++ lowerText cs

def pascalCase (cs : List Char) : List Char :=
  (words cs).flatMap capitalize

def camelCase (cs : List Char) : List Char :=
  match words cs with
  | [] => []
  | w :: ws => lowerText w ++ ws.flatMap capitalize

end LayoutCompose.Text
