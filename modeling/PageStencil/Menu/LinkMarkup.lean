import PageStencil.Form.Objection
import PageStencil.Markup.Classes
import PageStencil.Markup.Tree
import PageStencil.Markup.Vocabulary
import PageStencil.Menu.Link

/-!
Links as elements, and back. A link with an address is an `a`, one without is a `span`; its icon is a `span` of its
own behind the text. Reading back trims the text and takes the first icon class of the first `span` that has one.
-/

namespace PageStencil.Link

open Markup Form

def tagName (l : Link) : String := if l.href.isSome then "a" else "span"

def tag (l : Link) : Tag :=
  ((((({ name := l.tagName } : Tag).setText? "href" l.href).setText? "class" l.cssClass).setText? "id" l.id).setText?
    "rel" l.rel).setText? "target" l.target

def iconClass : List Char := ['f', 'a', '-']

def iconTree (icon : String) : Markup.Tree Unit :=
  .element () (Tag.ofTexts "span" [("class", "fa fa-" ++ icon)]) [.leaf () (.text " ")]

def contents (l : Link) : List (Markup.Tree Unit) :=
  (l.text.map fun s => Markup.Tree.leaf () (.text s)).toList ++
    match l.icon with
    | none => []
    | some icon => if icon.isEmpty then [] else [iconTree icon]

def tree (l : Link) : Markup.Tree Unit := .element () l.tag l.contents

def iconOfToken? (token : String) : Option String :=
  if iconClass.isPrefixOf token.toList then some (String.ofList (token.toList.drop iconClass.length)) else none

variable {α : Type}

def iconOfTree? : Markup.Tree α → Option String
  | .leaf _ _ => none
  | .element _ t _ => if t.name = "span" then t.classes.findSome? iconOfToken? else none

def textOf (ts : List (Markup.Tree α)) : String :=
  Text.trimmed <| String.join <| ts.map fun
    | .leaf _ c => c.content
    | .element _ _ _ => ""

/-- The value must be a text where a link has one; a list of tokens is refused. -/
def attributeText (t : Tag) (name : String) : Checked (Option String) :=
  match t.get? name with
  | none => pure none
  | some (.tokens ts) => (Checked.object .notText (.list (ts.map .text))).under (.field name)
  | some v => pure (some v.plain)

def nonEmpty (s : String) : Option String := if s.isEmpty then none else some s

def ofElement (t : Tag) (children : List (Markup.Tree α)) : Checked Link :=
  let text := nonEmpty (textOf children)
  let icon := children.findSome? iconOfTree?
  let classes := nonEmpty (" ".intercalate t.classes)
  let rel := (t.get? "rel").map Value.plain
  (fun href id target => ⟨text, href, icon, classes, id, rel, target⟩) <$> attributeText t "href" <*>
    attributeText t "id" <*> attributeText t "target"

end PageStencil.Link
