import PageStencil.Studio.Components
import PageStencil.Studio.Menus

/-!
Fragments that are printed one after the other in a studio. Each is made from the template that all of its kind share,
with the default allocator of that kind, and is rendered once.
-/

namespace PageStencil

structure ModalOrder where
  title : Option String := none
  text : Option String := none
  id : Option String := none
  cssClass : Option String := none
  buttons : List Button := []
  deriving DecidableEq, Inhabited, Repr

namespace Session

def placeMenus (n : Navbar Menu) : Session (Navbar MenuId) := do
  let menu ← n.menu.mapM newMenu
  let parts ← n.parts.mapM fun ms => ms.mapM newMenu
  return { menu, parts, cssClass := n.cssClass, inContainer := n.inContainer }

def makeBar (n : Navbar Menu) : Session FragmentId := do
  newNavbar (← placeMenus n) none

def makeDialog (o : ModalOrder) : Session FragmentId := do
  let id ← newModal o.title o.text o.id o.cssClass none
  o.buttons.forM fun b => discard (addButton id b)
  return id

end Session

/-- A studio as it stands behind the commands and the service. -/
abbrev Press := Studio

namespace Studio

def counter (s : Studio) (kind : String) : Allocator :=
  match s.defaults.lookup kind with
  | some id => s.allocator id
  | none => .start none s.settings.uidSeed s.lot

def print (s : Studio) (make : Session FragmentId) (pretty : Bool) : Except Fault String × Studio :=
  (make >>= fun id => Session.renderHtml id pretty).run s

def navbar (s : Studio) (n : Navbar Menu) (pretty : Bool) : Except Fault String × Studio :=
  s.print (Session.makeBar n) pretty

def modal (s : Studio) (o : ModalOrder) (pretty : Bool) : Except Fault String × Studio :=
  s.print (Session.makeDialog o) pretty

end Studio

end PageStencil
