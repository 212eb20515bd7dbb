import PageStencil.Fault
import PageStencil.Identifier
import PageStencil.Markup.Indented

/-!
A bench is where one copy of a template is worked on, with the allocator that its identifiers come from. Work may stop
at a fault; what was done before it stays done.
-/

namespace PageStencil

open Markup Stencil

/-- A copy of a template: its markers as they stood at the start, and the kind of its identifiers. -/
structure WorkingCopy where
  root : Node
  markerName : String
  targets : Index
  kind : String
  rendered : Bool := false
  deriving Inhabited

def WorkingCopy.make {α : Type} (markerName kind : String) (template : Markup.Tree α) (f : Forest) :
    WorkingCopy × Forest :=
  let (root, f) := f.plant template
  (⟨root, markerName, Index.build markerName f root, kind, false⟩, f)

structure Bench where
  forest : Forest
  uids : Allocator
  copy : WorkingCopy
  deriving Inhabited

def Bench.ofTemplate {α : Type} (markerName kind : String) (template : Markup.Tree α) (uids : Allocator) : Bench :=
  let (copy, forest) := WorkingCopy.make markerName kind template {}
  ⟨forest, uids, copy⟩

abbrev Work := ExceptT Fault (StateM Bench)

namespace Work

variable {α : Type}

def ofLookup : Except NotFound α → Work α
  | .ok a => pure a
  | .error e => throw (.notFound e)

def edit (change : Forest → Forest) : Work Unit := modify fun b => { b with forest := change b.forest }

def attempt (change : Forest → Except Misuse Forest) : Work Unit := do
  match change (← get).forest with
  | .ok forest => modify fun b => { b with forest }
  | .error m => throw (.misuse m)

def setTag (n : Node) (change : Tag → Tag) : Work Unit := edit fun f => f.setTag n change

def root : Work Node := return (← get).copy.root

/-- The markers below a node as they stand now, or those of the copy as they stood at the start. -/
def targets : Option Node → Work Index
  | some scope => return Index.build (← get).copy.markerName (← get).forest scope
  | none => return (← get).copy.targets

def contains (scope : Option Node) (marker : String) : Work Bool :=
  return (← targets scope).contains (← get).forest marker

def target (scope : Option Node) (marker : String) : Work Node := do
  ofLookup ((← targets scope).single (← get).forest marker)

def firstTarget (scope : Option Node) (marker : String) : Work Node := do
  ofLookup ((← targets scope).first (← get).forest marker)

def takeTarget (scope : Option Node) (marker : String) : Work Node := do
  let (n, rest, forest) ← ofLookup ((← targets scope).take (← get).forest marker)
  modify fun b => { b with forest, copy := { b.copy with targets := if scope.isNone then rest else b.copy.targets } }
  return n

def nextId : Work String := do
  let b ← get
  let (id, uids) := b.uids.next? b.copy.kind
  set { b with uids }
  match id with
  | some id => return id
  | none => throw .identifierTooLong

def plant (t : Markup.Tree α) : Work Node := modifyGet fun b =>
  let (n, forest) := b.forest.plant t
  (n, { b with forest })

def tree (n : Node) : Work (Markup.Tree Node) := return (← get).forest.tree n

def instantiate (n : Node) : Work Node := do plant (← tree n)

def append (parent n : Node) : Work Unit := attempt fun f => f.append parent n

def appendEach (parent : Node) (make : α → Work Node) : List α → Work Unit
  | [] => return
  | x :: xs => do
    append parent (← make x)
    appendEach parent make xs

def finish : Work Unit := modify fun b =>
  { b with
    forest := stripMarkers b.copy.markerName b.forest b.copy.root
    copy := { b.copy with rendered := true } }

def once (work : Work Unit) : Work Node := do
  if !(← get).copy.rendered then
    work
    finish
  root

def written (pretty : Bool) : Work String := do
  let t ← tree (← root)
  return if pretty then t.indentedHtml else t.html

end Work

end PageStencil
