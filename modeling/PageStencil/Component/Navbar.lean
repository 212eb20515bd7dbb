import PageStencil.Component.Bench
import PageStencil.Menu.Basic
import PageStencil.Menu.LinkMarkup
import PageStencil.Stencil.Packaged

/-!
Navigation bars. A bar shows one menu, or several side by side; the label of the first is its brand link. The entries
of a menu become items, and those that hold a list become dropdowns with an item for each entry of the list; what
lies deeper is not shown.
-/

namespace PageStencil

open Markup

structure Navbar (μ : Type) where
  menu : Option μ := none
  parts : Option (List μ) := none
  cssClass : Option String := none
  inContainer : Bool := false
  deriving Inhabited

namespace Navbar

def templateName : String := Stencil.Packaged.navbarName
def kind : String := "bs4navbar"
def defaultAlignment : String := "mr-auto"

variable {μ ν : Type}

def map (f : μ → ν) (n : Navbar μ) : Navbar ν where
  menu := n.menu.map f
  parts := n.parts.map fun ps => ps.map f
  cssClass := n.cssClass
  inContainer := n.inContainer

def shown (n : Navbar μ) : Except Fault (List μ) :=
  match n.menu, n.parts with
  | some _, some _ => .error .menuAndParts
  | some m, none => .ok [m]
  | none, parts => .ok (parts.getD [])

/-- The nodes whose copies a bar is made of. -/
structure Moulds where
  container : Node
  item : Node
  dropdown : Node
  deriving Inhabited

def fill (target : Node) (l : Link) : Work Unit := do
  let source ← Work.plant l.tree
  Work.edit fun f => f.merge target source

def labelled (mould : Node) (marker : String) (label : Option Link) : Work Node := do
  let n ← Work.instantiate mould
  match label with
  | none => return n
  | some l =>
    fill (← Work.target (some n) marker) l
    return n

def dropdown (mould : Node) (m : Menu) : Work Node := do
  let n ← Work.instantiate mould
  let text ← Work.target (some n) "dropdown-text"
  let container ← Work.target (some n) "dropdown-container"
  let item ← Work.takeTarget (some container) "dropdown-item"
  Work.edit fun f => f.setText? text (m.label.bind Link.text)
  let uid ← Work.nextId
  Work.setTag text fun t => t.set "id" (.text uid)
  Work.setTag container fun t => (t.set "aria-labelledby" (.text uid)).addClasses (.ofText? m.cssClass)
  Work.appendEach container (fun m => labelled item "dropdown-link" m.label) m.entries
  return n

def entry (moulds : Moulds) (m : Menu) : Work Node :=
  if m.isLeaf then labelled moulds.item "item-link" m.label else dropdown moulds.dropdown m

/-- All parts but the first give up the default alignment for one of their own. -/
def align (first : Bool) (cssClass : Option String) (t : Tag) : Tag :=
  match cssClass with
  | none => t
  | some css => (if first then t else t.removeClass defaultAlignment).addClasses (.text css)

def part (moulds : Moulds) (first : Bool) (m : Menu) : Work Node := do
  let n ← Work.instantiate moulds.container
  Work.setTag n (align first m.cssClass)
  Work.appendEach n (entry moulds) m.entries
  return n

def addParts (content : Node) (moulds : Moulds) (first : Bool) : List Menu → Work Unit
  | [] => return
  | m :: ms => do
    Work.append content (← part moulds first m)
    addParts content moulds false ms

def setBrand (brand : Node) : Option Link → Work Unit
  | some l => fill brand l
  | none => Work.edit fun f => f.detach brand

def render (n : Navbar Menu) : Work Unit := do
  let parts ← (n.shown : Except Fault (List Menu))
  let container ← Work.takeTarget none "container"
  let item ← Work.takeTarget (some container) "item"
  let dropdown ← Work.takeTarget (some container) "dropdown"
  if !n.inContainer then
    let positioning ← Work.target none "positioning"
    Work.attempt fun f => f.unwrap positioning
  Work.setTag (← Work.root) fun t => t.addClasses (.ofText? n.cssClass)
  let brand ← Work.target none "brand-link"
  setBrand brand (parts.head?.bind Menu.label)
  let uid ← Work.nextId
  let toggler ← Work.target none "toggler"
  Work.setTag toggler fun t => t.set "data-target" (.text ("#" ++ uid))
  let content ← Work.target none "content"
  Work.setTag content fun t => t.set "id" (.text uid)
  addParts content ⟨container, item, dropdown⟩ true parts

end Navbar

end PageStencil
