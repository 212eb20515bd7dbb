import PageStencil.Menu.Basic

/-!
Menus whose nodes may be shared. A node may stand in several lists; its parent is the one that it was appended to
last, and giving a node another list leaves parents as they are. What a node shows is the menu that it unfolds to.
-/

namespace PageStencil

abbrev LinkId := Nat
abbrev MenuId := Nat

structure MenuNode where
  label : Option LinkId := none
  cssClass : Option String := none
  parent : Option MenuId := none
  entries : Option (List MenuId) := none
  deriving DecidableEq, Inhabited, Repr

structure MenuGraph where
  links : Array Link := #[]
  nodes : Array MenuNode := #[]
  deriving Inhabited

namespace MenuGraph

def addLink (g : MenuGraph) (l : Link) : LinkId × MenuGraph :=
  (g.links.size, { g with links := g.links.push l })

def setLink (g : MenuGraph) (n : LinkId) (change : Link → Link) : MenuGraph :=
  { g with links := g.links.modify n change }

def addNode (g : MenuGraph) (m : MenuNode) : MenuId × MenuGraph :=
  (g.nodes.size, { g with nodes := g.nodes.push m })

def setNode (g : MenuGraph) (n : MenuId) (change : MenuNode → MenuNode) : MenuGraph :=
  { g with nodes := g.nodes.modify n change }

def link? (g : MenuGraph) (n : LinkId) : Option Link := g.links[n]?

def node? (g : MenuGraph) (n : MenuId) : Option MenuNode := g.nodes[n]?

def append (g : MenuGraph) (parent n : MenuId) : MenuGraph :=
  (g.setNode n fun m => { m with parent := some parent }).setNode parent fun m =>
    { m with entries := some (m.entries.getD [] ++ [n]) }

def makeGroup (g : MenuGraph) (n : MenuId) : MenuGraph :=
  g.setNode n fun m => { m with entries := some (m.entries.getD []) }

def addLabelled (g : MenuGraph) (parent : Option MenuId) (label : Option Link) (cssClass : Option String) :
    MenuId × MenuGraph :=
  match label with
  | none => g.addNode { cssClass, parent }
  | some l =>
    let (id, g) := g.addLink l
    g.addNode { label := some id, cssClass, parent }

def setEntries (g : MenuGraph) (n : MenuId) (entries : Option (List MenuId)) : MenuGraph :=
  g.setNode n fun m => { m with entries }

def addEntry (g : MenuGraph) (parent : MenuId) (label : LinkId) : MenuId × MenuGraph :=
  let (n, g) := g.addNode { label := some label }
  (n, g.append parent n)

mutual

/-- Adds the nodes of a menu; the parent of each is the one that holds it. -/
def plant (g : MenuGraph) (parent : Option MenuId) : Menu → MenuId × MenuGraph
  | .item l c => g.addLabelled parent l c
  | .group l c es =>
    let (n, g) := g.addLabelled parent l c
    let (entries, g) := g.plantAll n es
    (n, g.setEntries n (some entries))

def plantAll (g : MenuGraph) (parent : MenuId) : List Menu → List MenuId × MenuGraph
  | [] => ([], g)
  | m :: ms =>
    let (n, g) := g.plant (some parent) m
    let (ns, g) := g.plantAll parent ms
    (n :: ns, g)

end

def unfoldWithin (g : MenuGraph) : Nat → MenuId → Menu
  | 0, _ => .item none none
  | fuel + 1, n =>
    match g.node? n with
    | none => .item none none
    | some m =>
      let label := m.label.bind g.link?
      match m.entries with
      | none => .item label m.cssClass
      | some es => .group label m.cssClass (es.map (g.unfoldWithin fuel))

/-- The menu of a node. No path through distinct nodes is longer than their number; a menu that holds itself is
unfolded further, as deep as anything is shown of it. -/
def menu (g : MenuGraph) (n : MenuId) : Menu := g.unfoldWithin (g.nodes.size + 3) n

def parentsAgreeWithin (g : MenuGraph) : Nat → MenuId → Bool
  | 0, _ => true
  | fuel + 1, n =>
    ((g.node? n).bind (·.entries)).all fun es =>
      es.all fun e => ((g.node? e).bind (·.parent)) == some n && g.parentsAgreeWithin fuel e

def parentsAgree (g : MenuGraph) (n : MenuId) : Bool :=
  ((g.node? n).bind (·.parent)).isNone && g.parentsAgreeWithin (g.nodes.size + 1) n

end MenuGraph

end PageStencil
