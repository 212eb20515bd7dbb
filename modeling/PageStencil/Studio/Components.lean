import PageStencil.Studio.Basic

/-! Buttons, dialogs and navigation bars in a studio. -/

namespace PageStencil.Session

open Markup

variable {α : Type}

/-- Works on a fragment, on a bench that all trees of the studio lie on. -/
def work (id : FragmentId) (w : Work α) : Session α := ExceptT.mk fun s =>
  let f := s.fragment id
  let (outcome, b) := w.run ⟨s.forest, s.allocator f.uids, f.copy⟩
  (outcome, { s with
    forest := b.forest
    allocators := s.allocators.setIfInBounds f.uids b.uids
    fragments := s.fragments.setIfInBounds id { f with copy := b.copy } })

def newFragment (templateName kind : String) (uids : Option AllocatorId) : Session FragmentId := do
  let root ← load templateName
  let uids ← match uids with
    | some id => pure id
    | none => defaultAllocator kind
  modifyGet fun s =>
    let (copy, forest) := WorkingCopy.make s.settings.markerName kind (s.forest.tree root) s.forest
    (s.fragments.size, { s with forest, fragments := s.fragments.push ⟨copy, uids, .bare⟩ })

def setContent (id : FragmentId) (content : Content) : Session Unit := modify fun s =>
  s.setFragment id fun f => { f with content }

def newModal (title text id cssClass : Option String) (uids : Option AllocatorId) : Session FragmentId := do
  let fragment ← newFragment Modal.templateName Modal.kind uids
  let m ← work fragment (Modal.make title text id cssClass)
  setContent fragment (.modal m)
  return fragment

def newNavbar (n : Navbar MenuId) (uids : Option AllocatorId) : Session FragmentId := do
  let fragment ← newFragment Navbar.templateName Navbar.kind uids
  setContent fragment (.navbar n)
  return fragment

def rendering (menus : MenuGraph) : Content → Work Unit
  | .bare => throw .nothingToRender
  | .modal m => m.render
  | .navbar n => (n.map menus.menu).render

def render (id : FragmentId) : Session Node := do
  let s ← get
  work id (Work.once (rendering s.menus (s.fragment id).content))

def renderHtml (id : FragmentId) (pretty : Bool) : Session String := do
  discard (render id)
  work id (Work.written pretty)

def addButton (id : FragmentId) (b : Button) : Session (Option Node) := do
  match ((← get).fragment id).content with
  | .modal m => work id (some <$> m.addButton b)
  | _ => return none

def newButton (b : Button) : Session ButtonId := modifyGet fun s =>
  (s.buttons.size, { s with buttons := s.buttons.push ⟨b, none⟩ })

def renderButton (id : ButtonId) : Session Node := do
  let placed := (← get).button id
  match placed.element with
  | some n => return n
  | none =>
    let n ← plant placed.button.tree
    modify fun s => { s with buttons := s.buttons.setIfInBounds id { placed with element := some n } }
    return n

end PageStencil.Session
