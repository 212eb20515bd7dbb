import PageStencil.Markup.Forest
import PageStencil.Text.Quoted

namespace PageStencil.Stencil

open Markup

def markerAttribute : String := "data-stencil"

def markers (name : String) (t : Tag) : List String :=
  ((t.get? name).map fun v => Text.wordsOf v.plain).getD []

/-- Every marker of a tree with its element, in document order; an element counts for each time it has a name. -/
def markersOf (name : String) (t : Markup.Tree Node) : List (String × Node) :=
  t.elements.flatMap fun (n, tag) => (markers name tag).map (·, n)

def stripMarkers (name : String) (f : Forest) (root : Node) : Forest :=
  f.update root (Markup.Tree.mapTags fun t => t.remove name)

end PageStencil.Stencil
