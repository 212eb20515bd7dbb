import PageStencil.Markup.Tag
import PageStencil.Text.Blank

/-!
Markup as trees, every node with a label. Trees without identity have the labels of `Unit`; numbering a tree gives
its nodes consecutive numbers in document order.
-/

namespace PageStencil.Markup

inductive AsideKind
  | comment
  | doctype
  | cdata
  | instruction
  | declaration
  deriving DecidableEq, Repr

inductive Leaf
  | text (s : String)
  | aside (kind : AsideKind) (s : String)
  deriving DecidableEq, Inhabited, Repr

def Leaf.content : Leaf → String
  | text s => s
  | aside _ s => s

inductive Tree (α : Type)
  | leaf (label : α) (content : Leaf)
  | element (label : α) (tag : Tag) (children : List (Tree α))
  deriving Inhabited

namespace Tree

variable {α β : Type}

def label : Tree α → α
  | leaf l _ => l
  | element l _ _ => l

def tag? : Tree α → Option Tag
  | leaf _ _ => none
  | element _ t _ => some t

def isElement (t : Tree α) : Bool := t.tag?.isSome

def children : Tree α → List (Tree α)
  | leaf _ _ => []
  | element _ _ cs => cs

def withChildren (cs : List (Tree α)) : Tree α → Tree α
  | leaf l c => leaf l c
  | element l t _ => element l t cs

def append (cs : List (Tree α)) : Tree α → Tree α
  | leaf l c => leaf l c
  | element l t ds => element l t (ds ++ cs)

def mapTag (f : Tag → Tag) : Tree α → Tree α
  | leaf l c => leaf l c
  | element l t cs => element l (f t) cs

/-- Holds no element and no text other than blanks; an aside counts as text. -/
def isEmpty (t : Tree α) : Bool :=
  t.children.all fun
    | leaf _ c => Text.isBlankText c.content
    | element _ _ _ => false

mutual

def size : Tree α → Nat
  | leaf _ _ => 1
  | element _ _ cs => sizeAll cs + 1

def sizeAll : List (Tree α) → Nat
  | [] => 0
  | t :: ts => size t + sizeAll ts

end

mutual

def number (start : Nat) : Tree α → Tree Nat
  | leaf _ c => leaf start c
  | element _ t cs => element start t (numberAll (start + 1) cs)

def numberAll (start : Nat) : List (Tree α) → List (Tree Nat)
  | [] => []
  | t :: ts => number start t :: numberAll (start + size t) ts

end

mutual

def erase : Tree α → Tree Unit
  | leaf _ c => leaf () c
  | element _ t cs => element () t (eraseAll cs)

def eraseAll : List (Tree α) → List (Tree Unit)
  | [] => []
  | t :: ts => erase t :: eraseAll ts

end

mutual

def labels : Tree α → List α
  | leaf l _ => [l]
  | element l _ cs => l :: labelsOfAll cs

def labelsOfAll : List (Tree α) → List α
  | [] => []
  | t :: ts => labels t ++ labelsOfAll ts

end

mutual

def elements : Tree α → List (α × Tag)
  | leaf _ _ => []
  | element l t cs => (l, t) :: elementsOfAll cs

def elementsOfAll : List (Tree α) → List (α × Tag)
  | [] => []
  | t :: ts => elements t ++ elementsOfAll ts

end

mutual

def mapTags (f : Tag → Tag) : Tree α → Tree α
  | leaf l c => leaf l c
  | element l t cs => element l (f t) (mapTagsOfAll f cs)

def mapTagsOfAll (f : Tag → Tag) : List (Tree α) → List (Tree α)
  | [] => []
  | t :: ts => mapTags f t :: mapTagsOfAll f ts

end

section Search

variable [DecidableEq α]

mutual

def find? (n : α) : Tree α → Option (Tree α)
  | leaf l c => if l = n then some (leaf l c) else none
  | element l t cs => if l = n then some (element l t cs) else findIn? n cs

def findIn? (n : α) : List (Tree α) → Option (Tree α)
  | [] => none
  | t :: ts => find? n t <|> findIn? n ts

end

mutual

def replace (n : α) (new : Tree α → List (Tree α)) : Tree α → List (Tree α)
  | leaf l c => if l = n then new (leaf l c) else [leaf l c]
  | element l t cs => if l = n then new (element l t cs) else [element l t (replaceIn n new cs)]

def replaceIn (n : α) (new : Tree α → List (Tree α)) : List (Tree α) → List (Tree α)
  | [] => []
  | t :: ts => replace n new t ++ replaceIn n new ts

end

def contains (t : Tree α) (n : α) : Bool := (t.find? n).isSome

end Search

def firstElement? (ts : List (Tree α)) : Option (Tree α) := ts.find? isElement

mutual

def descendant? (name : String) : Tree α → Option (Tree α)
  | leaf _ _ => none
  | element _ _ cs => descendantIn? name cs

def descendantIn? (name : String) : List (Tree α) → Option (Tree α)
  | [] => none
  | leaf _ _ :: ts => descendantIn? name ts
  | element l t cs :: ts =>
    if t.name = name then some (element l t cs)
    else descendantIn? name cs <|> descendantIn? name ts

end

/-- The root of a fragment: the first element in the body, or of the whole if it has no body. -/
def fragmentRoot? (document : Tree α) : Option (Tree α) :=
  firstElement? ((document.descendant? "body").getD document).children

end Tree

end PageStencil.Markup
