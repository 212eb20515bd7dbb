import PageStencil.Menu.Basic

/-!
Menus from the depths of their entries. What stands below an entry are the deeper entries right behind it, up to
the next one that is not deeper.
-/

namespace PageStencil.Outline

/-- An item with its depth, and whether a list has been opened below it. -/
structure Entry where
  depth : Nat
  label : Link
  opened : Bool := false
  deriving DecidableEq, Repr

namespace Entry

def menu (e : Entry) (below : List Menu) : Menu :=
  if e.opened then .group (some e.label) none below else .item (some e.label) none

def nest : List Entry → List Menu
  | [] => []
  | e :: rest =>
    e.menu (nest (rest.takeWhile fun d => e.depth < d.depth)) ::
      nest (rest.dropWhile fun d => e.depth < d.depth)
termination_by es => es.length
decreasing_by
  · have := (rest.takeWhile_sublist fun d => decide (e.depth < d.depth)).length_le
    simp only [List.length_cons]
    omega
  · have := (rest.dropWhile_sublist fun d => decide (e.depth < d.depth)).length_le
    simp only [List.length_cons]
    omega

end Entry

end PageStencil.Outline
