import PageStencil.Markup.Tree
import PageStencil.Markup.Vocabulary

/-!
Markup as the pieces that make up a tree: openings and closings of elements, texts, and asides. Each closing closes the
innermost open element of its name with all that is open in it; one without such an element is dropped. A text of
blanks only is cut down to one line feed or one space, except where blanks carry meaning.
-/

namespace PageStencil.Markup

inductive Piece
  | opening (tag : Tag)
  | closing (space name : String)
  | text (s : List Char)
  | aside (kind : AsideKind) (s : List Char)
  | leaf (c : Leaf)
  deriving Inhabited

namespace Piece

def close (name : String) : Piece := closing "" name

def cons : Piece → List Piece → List Piece
  | text s, text t :: ps => text (s ++ t) :: ps
  | p, ps => p :: ps

def joinTexts (ps : List Piece) : List Piece := ps.foldr cons []

end Piece

namespace Document

def name : String := "[document]"

/-- An element whose end has not come yet; its children are the latest first. -/
structure Open where
  tag : Tag
  children : List (Tree Unit)

abbrev Stack := List Open

def Open.close (o : Open) : Tree Unit := .element () o.tag o.children.reverse

def start : Stack := [⟨{ name }, []⟩]

def add (t : Tree Unit) : Stack → Stack
  | [] => []
  | o :: os => { o with children := t :: o.children } :: os

def Open.isCalled (space name : String) (o : Open) : Bool := o.tag.name == name && o.tag.space == space

/-- Closes the innermost elements up to one of a name, each into the next; `inner` is closed already. -/
def closeInto (space name : String) (inner : Tree Unit) : Stack → Stack
  | [] => []
  | o :: os =>
    let o := { o with children := inner :: o.children }
    if o.isCalled space name then add o.close os else closeInto space name o.close os

def isOpen (space name : String) (s : Stack) : Bool := s.dropLast.any (Open.isCalled space name)

def closeTo (space name : String) (s : Stack) : Stack :=
  match s with
  | [] => []
  | o :: os =>
    if !isOpen space name s then s
    else if o.isCalled space name then add o.close os
    else closeInto space name o.close os

def closeAllInto (inner : Tree Unit) : Stack → Tree Unit
  | [] => inner
  | o :: os => closeAllInto { o with children := inner :: o.children }.close os

def closeAll : Stack → Tree Unit
  | [] => .element () { name } []
  | o :: os => closeAllInto o.close os

def isPlainBlank (c : Char) : Bool := c == ' ' || c == '\t' || c == '\n' || c == '\r' || c == '\x0c'

def squeeze (s : Stack) (text : List Char) : List Char :=
  if (s.any fun o => o.tag.keepsBlanks) || !text.all isPlainBlank then text
  else if text.contains '\n' then ['\n'] else [' ']

def addPiece (s : Stack) : Piece → Stack
  | .opening tag => ⟨tag, []⟩ :: s
  | .closing space name => closeTo space name s
  | .text t => add (.leaf () (.text (String.ofList (squeeze s t)))) s
  | .aside k t => add (.leaf () (.aside k (String.ofList (squeeze s t)))) s
  | .leaf c => add (.leaf () c) s

def ofPieces (ps : List Piece) : Tree Unit := closeAll ((Piece.joinTexts ps).foldl addPiece start)

end Document

end PageStencil.Markup
