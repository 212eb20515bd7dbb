import PageStencil.Component.Modal
import PageStencil.Component.Navbar
import PageStencil.Menu.Graph
import PageStencil.Settings
import PageStencil.Stencil.Template

/-!
A studio holds all that is made while fragments are put together by hand: the trees, the menus, the components and
their allocators. A session may stop at a fault; what it did before stays done.
-/

namespace PageStencil

abbrev AllocatorId := Nat
abbrev IndexId := Nat
abbrev ButtonId := Nat
abbrev FragmentId := Nat

inductive Content
  | bare
  | modal (m : Modal)
  | navbar (n : Navbar MenuId)
  deriving Inhabited

structure Fragment where
  copy : WorkingCopy
  uids : AllocatorId
  content : Content
  deriving Inhabited

structure PlacedButton where
  button : Button
  element : Option Markup.Node := none
  deriving Inhabited

/-- `lot` stands in for the seed where none is set. -/
structure Studio where
  settings : Settings := {}
  source : Stencil.Source
  lot : Nat := 0
  forest : Markup.Forest := {}
  shelf : Stencil.Shelf := {}
  allocators : Array Allocator := #[]
  defaults : List (String × AllocatorId) := []
  menus : MenuGraph := {}
  indexes : Array Stencil.Index := #[]
  buttons : Array PlacedButton := #[]
  fragments : Array Fragment := #[]
  deriving Inhabited

abbrev Session := ExceptT Fault (StateM Studio)

namespace Studio

def allocator (s : Studio) (id : AllocatorId) : Allocator := s.allocators[id]?.getD default

def index (s : Studio) (id : IndexId) : Stencil.Index := s.indexes[id]?.getD default

def button (s : Studio) (id : ButtonId) : PlacedButton := s.buttons[id]?.getD default

def fragment (s : Studio) (id : FragmentId) : Fragment := s.fragments[id]?.getD default

def setFragment (s : Studio) (id : FragmentId) (change : Fragment → Fragment) : Studio :=
  { s with fragments := s.fragments.modify id change }

end Studio

namespace Session

open Markup

variable {α : Type}

def edit (change : Forest → Forest) : Session Unit := modify fun s => { s with forest := change s.forest }

def attempt (change : Forest → Except Misuse Forest) : Session Unit := do
  match change (← get).forest with
  | .ok forest => modify fun s => { s with forest }
  | .error m => throw (.misuse m)

def merge (target source : Node) : Session Unit := do
  let (outcome, forest) := (← get).forest.mergeApart target source
  modify fun s => { s with forest }
  match outcome with
  | .ok () => return
  | .error m => throw (.misuse m)

def plant (t : Markup.Tree α) : Session Node := modifyGet fun s =>
  let (n, forest) := s.forest.plant t
  (n, { s with forest })

def load (name : String) : Session Node := do
  let s ← get
  match s.shelf.load s.source s.forest name with
  | .error f => throw f
  | .ok (root, shelf, forest) =>
    set { s with shelf, forest }
    return root

def writeTemplate (path : Storage.Path) (content : ByteArray) : Session Unit := modify fun s =>
  { s with source := { s.source with directory := s.source.directory.write path content } }

def newAllocator (seed : Option Int) : Session AllocatorId := modifyGet fun s =>
  (s.allocators.size, { s with allocators := s.allocators.push (.start seed s.settings.uidSeed s.lot) })

def defaultAllocator (kind : String) : Session AllocatorId := do
  match (← get).defaults.lookup kind with
  | some id => return id
  | none =>
    let id ← newAllocator none
    modify fun s => { s with defaults := (kind, id) :: s.defaults }
    return id

def forgetDefaults : Session Unit := modify fun s => { s with defaults := [] }

def nextId (id : AllocatorId) (kind : String) : Session String := do
  let s ← get
  let (name, a) := (s.allocator id).next? kind
  set { s with allocators := s.allocators.setIfInBounds id a }
  match name with
  | some name => return name
  | none => throw .identifierTooLong

def newIndex (markerName : String) (root : Node) : Session IndexId := modifyGet fun s =>
  (s.indexes.size, { s with indexes := s.indexes.push (.build markerName s.forest root) })

def ofLookup : Except Stencil.NotFound α → Session α
  | .ok a => pure a
  | .error e => throw (.notFound e)

def single (id : IndexId) (marker : String) : Session Node := do
  let s ← get
  ofLookup ((s.index id).single s.forest marker)

def first (id : IndexId) (marker : String) : Session Node := do
  let s ← get
  ofLookup ((s.index id).first s.forest marker)

def take (id : IndexId) (marker : String) : Session Node := do
  let s ← get
  let (n, rest, forest) ← ofLookup ((s.index id).take s.forest marker)
  set { s with forest, indexes := s.indexes.setIfInBounds id rest }
  return n

end Session

end PageStencil
