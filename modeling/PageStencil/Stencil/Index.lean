import PageStencil.Stencil.Marker

/-!
The markers of a tree as they stood at one time. A node answers to its markers as long as it stands in the tree;
what has been taken out by marker is forgotten for good.
-/

namespace PageStencil.Stencil

open Markup

structure NotFound where
  marker : String
  count : Nat
  deriving DecidableEq, Repr

def NotFound.message (e : NotFound) : String :=
  if e.count = 0 then "Marker " ++ Text.quoted e.marker ++ " not found in template"
  else "Marker " ++ Text.quoted e.marker ++ " matched " ++ toString e.count ++ " nodes, expected exactly one"

structure Index where
  root : Node
  found : List (String × Node)
  deriving Inhabited, Repr

namespace Index

def build (name : String) (f : Forest) (root : Node) : Index where
  root := root
  found := ((f.find? root).map (markersOf name)).getD []

def live (i : Index) (f : Forest) (marker : String) : List Node :=
  ((i.found.filter fun e => e.1 == marker).map (·.2)).filter (f.within i.root)

def contains (i : Index) (f : Forest) (marker : String) : Bool := !(i.live f marker).isEmpty

def single (i : Index) (f : Forest) (marker : String) : Except NotFound Node :=
  match i.live f marker with
  | [n] => .ok n
  | ns => .error ⟨marker, ns.length⟩

def first (i : Index) (f : Forest) (marker : String) : Except NotFound Node :=
  match i.live f marker with
  | n :: _ => .ok n
  | [] => .error ⟨marker, 0⟩

def forget (i : Index) (nodes : List Node) : Index :=
  { i with found := i.found.filter fun e => !nodes.contains e.2 }

/-- Detaches the only node of a marker; all that is below it leaves the index with it. -/
def take (i : Index) (f : Forest) (marker : String) : Except NotFound (Node × Index × Forest) := do
  let n ← i.single f marker
  let gone := ((f.find? n).map fun t => t.elements.map (·.1)).getD []
  return (n, i.forget gone, f.detach n)

end Index

end PageStencil.Stencil
