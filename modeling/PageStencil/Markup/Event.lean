import PageStencil.Markup.Tree
import PageStencil.Markup.Vocabulary

/-!
Trees as the tags and texts that stand one behind the other in their written form, and the written form of each. In
text and in values `&`, `<` and `>` are escaped; a value is quoted so that no quote in it can end it.
-/

namespace PageStencil.Markup

inductive Event
  | opening (tag : Tag)
  | closing (name : String)
  | lone (tag : Tag)
  | text (s : String)
  | raw (s : String)
  | aside (kind : AsideKind) (s : String)
  deriving DecidableEq, Inhabited, Repr

def escapeChar (c : Char) : List Char :=
  if c = '&' then ['&', 'a', 'm', 'p', ';']
  else if c = '<' then ['&', 'l', 't', ';']
  else if c = '>' then ['&', 'g', 't', ';']
  else [c]

def escape (s : List Char) : List Char := s.flatMap escapeChar

def escapeQuote (c : Char) : List Char := if c = '\x22' then ['&', 'q', 'u', 'o', 't', ';'] else [c]

def quoteValue (s : List Char) : List Char :=
  if !s.contains '\x22' then '\x22' :: s ++ ['\x22']
  else if !s.contains '\x27' then '\x27' :: s ++ ['\x27']
  else '\x22' :: s.flatMap escapeQuote ++ ['\x22']

def insertByName (a : String × Value) : List (String × Value) → List (String × Value)
  | [] => [a]
  | b :: bs => if a.1 < b.1 then a :: b :: bs else b :: insertByName a bs

def sortByName (as : List (String × Value)) : List (String × Value) := as.foldr insertByName []

def attributeMarkup (a : String × Value) : List Char :=
  ' ' :: a.1.toList ++ '=' :: quoteValue (escape a.2.written.toList)

def Tag.inner (t : Tag) : List Char := t.fullName.toList ++ (sortByName t.attributes).flatMap attributeMarkup

namespace AsideKind

def start : AsideKind → String
  | comment => "<!--"
  | doctype => "<!DOCTYPE "
  | cdata => "<![CDATA["
  | instruction | declaration => "<?"

def stop : AsideKind → String
  | comment => "-->"
  | doctype => ">\n"
  | cdata => "]]>"
  | instruction => ">"
  | declaration => "?>"

end AsideKind

namespace Event

def markup : Event → List Char
  | opening t => '<' :: t.inner ++ ['>']
  | closing n => '<' :: '/' :: n.toList ++ ['>']
  | lone t => '<' :: t.inner ++ ['/', '>']
  | text s => escape s.toList
  | raw s => s.toList
  | aside k s => k.start.toList ++ s.toList ++ k.stop.toList

end Event

/-- How a leaf is written below a parent of some name; in XML all text is escaped. -/
def Leaf.event (xml : Bool) (parent : String) : Leaf → Event
  | text s => if !xml && holdsRawText parent then .raw s else .text s
  | aside k s => .aside k s

namespace Tree

variable {α : Type}

mutual

def eventsBelow (xml : Bool) (parent : String) : Tree α → List Event
  | leaf _ c => [c.event xml parent]
  | element _ t cs =>
    if cs.isEmpty && t.standsAlone then [.lone t]
    else .opening t :: (eventsOfAll xml t.name cs ++ [.closing t.fullName])

def eventsOfAll (xml : Bool) (parent : String) : List (Tree α) → List Event
  | [] => []
  | t :: ts => eventsBelow xml parent t ++ eventsOfAll xml parent ts

end

def events (t : Tree α) : List Event := t.eventsBelow (t.tag?.any Tag.isXml) ""

def html (t : Tree α) : String := String.ofList (t.events.flatMap Event.markup)

end Tree

end PageStencil.Markup
