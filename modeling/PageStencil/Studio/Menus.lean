import PageStencil.Menu.LinkForm
import PageStencil.Menu.LinkMarkup
import PageStencil.Outline.Growth
import PageStencil.Studio.Basic

/-! Links and menus in a studio. -/

namespace PageStencil.Session

open Form Markup

def accept {α : Type} : Checked α → Session α
  | .accepted a => pure a
  | .refused objections => throw (.badLink objections)

def newLink (l : Link) : Session LinkId := modifyGet fun s =>
  let (id, menus) := s.menus.addLink l
  (id, { s with menus })

def link (id : LinkId) : Session Link := return ((← get).menus.link? id).getD {}

def linkOfElement (n : Node) : Session LinkId := do
  match ← (return (← get).forest.tree n : Session (Markup.Tree Node)) with
  | .leaf _ _ => newLink {}
  | .element _ t cs => newLink (← accept (Link.ofElement t cs))

def setMenus (change : MenuGraph → MenuGraph) : Session Unit := modify fun s => { s with menus := change s.menus }

def newMenu (m : Menu) : Session MenuId := modifyGet fun s =>
  let (id, menus) := s.menus.plant none m
  (id, { s with menus })

def readOutline (text : String) (strict : Option Bool) : Session MenuId := do
  let s ← get
  match Outline.grow (strict.getD s.settings.strict) s.menus text with
  | .ok (id, menus) =>
    set { s with menus }
    return id
  | .error f => throw (.outline f)

def addEntry (parent : MenuId) (label : LinkId) : Session MenuId := modifyGet fun s =>
  let (id, menus) := s.menus.addEntry parent label
  (id, { s with menus })

def addText (parent : MenuId) (text href : Json) : Session MenuId := do
  let l ← accept (Link.ofFields [("text", text), ("href", href)])
  addEntry parent (← newLink l)

/-- A new entry that shares a link, which brings its own address. -/
def addLink (parent : MenuId) (label : LinkId) (href : Option String) : Session MenuId :=
  if href.isSome then throw .addressForLink else addEntry parent label

end PageStencil.Session
