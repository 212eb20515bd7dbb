import PageStencil.Markup.Classes
import PageStencil.Markup.Tree

/-!
A forest holds every tree in use, each of its nodes under a number of its own. Moving a node takes it with all that
is below it out of its old place; what is taken out and put nowhere stands as a tree by itself. So a node has one
place at most, and the nodes elsewhere stay as they are.
-/

namespace PageStencil.Markup

abbrev Node := Nat

inductive Misuse
  | intoItself
  | noParent
  deriving DecidableEq, Repr

def Misuse.message : Misuse → String
  | intoItself => "Cannot insert a tag into itself."
  | noParent => "Cannot replace an element with its contents when that element is not part of a tree."

structure Forest where
  trees : List (Tree Node) := []
  next : Nat := 0
  deriving Inhabited

namespace Forest

def nodes (f : Forest) : List Node := Tree.labelsOfAll f.trees

structure Sound (f : Forest) : Prop where
  nodup : f.nodes.Nodup
  bounded : ∀ n ∈ f.nodes, n < f.next

def find? (f : Forest) (n : Node) : Option (Tree Node) := Tree.findIn? n f.trees

def tree (f : Forest) (n : Node) : Tree Node := (f.find? n).getD (.leaf n (.text ""))

def tag? (f : Forest) (n : Node) : Option Tag := (f.find? n).bind Tree.tag?

def children (f : Forest) (n : Node) : List (Tree Node) := ((f.find? n).map Tree.children).getD []

def within (f : Forest) (root n : Node) : Bool := ((f.find? root).map fun t => t.contains n).getD false

def isRoot (f : Forest) (n : Node) : Bool := f.trees.any fun t => t.label == n

def replace (f : Forest) (n : Node) (new : Tree Node → List (Tree Node)) : Forest :=
  { f with trees := Tree.replaceIn n new f.trees }

def update (f : Forest) (n : Node) (change : Tree Node → Tree Node) : Forest :=
  f.replace n fun t => [change t]

def setTag (f : Forest) (n : Node) (change : Tag → Tag) : Forest := f.update n (Tree.mapTag change)

def remove (f : Forest) (n : Node) : Forest := f.replace n fun _ => []

def insert (f : Forest) (ts : List (Tree Node)) : Forest := { f with trees := ts ++ f.trees }

def plant {α : Type} (f : Forest) (t : Tree α) : Node × Forest :=
  (f.next, ⟨t.number f.next :: f.trees, f.next + t.size⟩)

def detach (f : Forest) (n : Node) : Forest :=
  match f.find? n with
  | none => f
  | some t => (f.remove n).insert [t]

/-- Moves a node to the end of a parent; a node that holds the parent stays where it is. -/
def adopt (f : Forest) (parent n : Node) : Forest :=
  match f.find? n with
  | none => f
  | some t => if t.contains parent then f else (f.remove n).update parent (Tree.append [t])

def append (f : Forest) (parent n : Node) : Except Misuse Forest :=
  if parent = n then .error .intoItself else .ok (f.adopt parent n)

def clear (f : Forest) (n : Node) : Forest :=
  match f.children n with
  | [] => f
  | cs => (f.update n (Tree.withChildren [])).insert cs

def setText? (f : Forest) (n : Node) : Option String → Forest
  | none => f
  | some s =>
    let f := f.clear n
    { f.update n (Tree.withChildren [.leaf f.next (.text s)]) with next := f.next + 1 }

/-- The children take the place of their parent, which then stands empty by itself. -/
def unwrap (f : Forest) (n : Node) : Except Misuse Forest :=
  match f.find? n with
  | none => .ok f
  | some t =>
    if f.isRoot n then .error .noParent
    else .ok ((f.replace n Tree.children).insert [t.withChildren []])

/-- The target loses its children, gets those of the source, and takes over the source's attributes. A source that
holds the target has no children to give away. -/
def merge (f : Forest) (target source : Node) : Forest :=
  let f := f.clear target
  match f.find? source with
  | none => f
  | some s =>
    let f := if s.contains target then f else
      (f.update source (Tree.withChildren [])).update target (Tree.withChildren s.children)
    match s.tag? with
    | none => f
    | some tag => f.setTag target fun t => t.merge tag

/-- Merging where the target may stand inside the source, which is refused, since the target would go into itself.
Of a target among the children of the source this shows late: those before it have moved into it by then, and it has
been taken out itself. -/
def mergeApart (f : Forest) (target source : Node) : Except Misuse Unit × Forest :=
  if target = source || !f.within source target then (.ok (), f.merge target source)
  else if (f.children source).any fun t => t.label == target then
    let f := f.clear target
    let moved := (f.children source).takeWhile fun t => t.label != target
    (.error .intoItself, (moved.foldl (fun f t => f.adopt target t.label) f).detach target)
  else (.error .intoItself, f)

end Forest

end PageStencil.Markup
