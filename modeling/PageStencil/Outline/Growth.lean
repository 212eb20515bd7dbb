import PageStencil.Menu.Graph
import PageStencil.Outline.Reading

/-!
Menus that grow in a graph while their outline is read. On a stack are the nodes that a line can still go below, the
innermost last; a deeper line takes up the stack on which the latest item was put, with that item on top.
-/

namespace PageStencil.Outline

structure Latest where
  node : MenuId
  path : List MenuId

structure Growth where
  graph : MenuGraph
  root : MenuId
  stack : List MenuId
  latest : Option Latest := none
  current : Option Nat := none
  unit : Option Nat := none

namespace Growth

def start (g : MenuGraph) : Growth :=
  let (root, graph) := g.addNode { entries := some [] }
  { graph, root, stack := [root] }

def move (strict : Bool) (b : Growth) (indentation : Nat) : Except Cause Growth :=
  match b.current with
  | none => .ok { b with current := some indentation }
  | some current =>
    if current < indentation then
      match b.latest with
      | none => .error .orphan
      | some latest =>
        .ok { b with
          graph := b.graph.makeGroup latest.node
          stack := latest.path ++ [latest.node]
          current := some indentation
          unit := some (b.unit.getD (indentation - current)) }
    else if indentation < current then
      match b.unit with
      | none => .error .noLevel
      | some unit =>
        let drop := current - indentation
        if strict ∧ drop % unit ≠ 0 then .error (.uneven unit)
        else if b.stack.length ≤ drop / unit then .error .aboveTop
        else .ok { b with stack := b.stack.take (b.stack.length - drop / unit), current := some indentation }
    else .ok b

def put (b : Growth) (l : Lexeme) : Growth :=
  let (label, graph) := b.graph.addLink l.link
  match l.marker with
  | .title => { b with graph := graph.setNode b.root fun m => { m with label := some label } }
  | .item =>
    let (node, graph) := graph.addEntry (b.stack.getLastD b.root) label
    { b with graph, latest := some ⟨node, b.stack⟩ }

def addLine (strict : Bool) (b : Growth) (line : Nat × List Char) : Except Fault Growth := do
  let l ← Lexeme.ofLine (some line.1) line.2
  let moved ← (b.move strict l.indentation).mapError fun cause =>
    ⟨cause, String.ofList line.2, some line.1, some l.indentation⟩
  return moved.put l

end Growth

def grow (strict : Bool) (g : MenuGraph) (text : String) : Except Fault (MenuId × MenuGraph) := do
  let b ← (numberedLines text.toList).foldlM (Growth.addLine strict) (.start g)
  return (b.root, b.graph)

end PageStencil.Outline
