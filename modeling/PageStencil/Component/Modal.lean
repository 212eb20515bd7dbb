import PageStencil.Component.Bench
import PageStencil.Component.Button
import PageStencil.Stencil.Packaged

/-!
Dialogs. Header, body and footer may be filled by hand before the dialog is rendered; an empty header or footer is
left out. The dialog is labelled by its title as long as it has one.
-/

namespace PageStencil

open Markup

structure Modal where
  title : Option String := none
  text : Option String := none
  id : Option String := none
  cssClass : Option String := none
  header : Node
  body : Node
  footer : Node
  deriving DecidableEq, Inhabited, Repr

namespace Modal

def templateName : String := Stencil.Packaged.modalName
def kind : String := "bs4modal"
def defaultButtonClass : String := "btn-secondary"

def make (title text id cssClass : Option String) : Work Modal := do
  let header ← Work.target none "header"
  let body ← Work.target none "body"
  let footer ← Work.target none "footer"
  return { title, text, id, cssClass, header, body, footer }

def footerButton (label cssClass id : Option String) (dismiss : Bool) : Button :=
  { label, cssClass, id, dataDismiss := if dismiss then some "modal" else none }

def addButton (m : Modal) (b : Button) : Work Node := do
  let n ← Work.plant b.tree
  Work.append m.footer n
  return n

def setTitle (m : Modal) : Work Unit := do
  let uid ← Work.nextId
  Work.setTag (← Work.root) fun t => t.set "aria-labelledby" (.text uid)
  let title ← Work.target none "title"
  Work.setTag title fun t => t.set "id" (.text uid)
  Work.edit fun f => f.setText? title m.title

def dropIfEmpty (n : Node) : Work Unit := do
  if (← Work.tree n).isEmpty then Work.edit fun f => f.detach n

def render (m : Modal) : Work Unit := do
  let root ← Work.root
  Work.setTag root fun t => (t.setText? "id" m.id).addClasses (.ofText? m.cssClass)
  if ← Work.contains none "title" then m.setTitle
  Work.edit fun f => f.setText? m.body m.text
  dropIfEmpty m.header
  dropIfEmpty m.footer

end Modal

end PageStencil
