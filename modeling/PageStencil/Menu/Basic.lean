import PageStencil.Menu.Link

/-!
Menus. An entry is a leaf, or a group that holds entries; a group without entries is not a leaf. The JSON form
leaves out the class of an entry that has none, and the list of a leaf.
-/

namespace PageStencil

inductive Menu
  | item (label : Option Link) (cssClass : Option String)
  | group (label : Option Link) (cssClass : Option String) (entries : List Menu)
  deriving Inhabited

namespace Menu

def label : Menu → Option Link
  | item l _ => l
  | group l _ _ => l

def cssClass : Menu → Option String
  | item _ c => c
  | group _ c _ => c

def entries : Menu → List Menu
  | item _ _ => []
  | group _ _ es => es

def isLeaf : Menu → Bool
  | item _ _ => true
  | group _ _ _ => false

def head (label : Option Link) (cssClass : Option String) : List (String × Json) :=
  ("label", Json.ofOption Link.toJson label) :: (cssClass.map fun c => ("css_class", Json.text c)).toList

mutual

def toJson : Menu → Json
  | item l c => .object (head l c)
  | group l c es => .object (head l c ++ [("children", .list (entriesToJson es))])

def entriesToJson : List Menu → List Json
  | [] => []
  | m :: ms => toJson m :: entriesToJson ms

end

@[simp] theorem entriesToJson_eq_map (ms : List Menu) : entriesToJson ms = ms.map toJson := by
  induction ms with
  | nil => rfl
  | cons m ms ih => simp [entriesToJson, ih]

mutual

def preorder : Menu → List Menu
  | item l c => [item l c]
  | group l c es => group l c es :: preorderAll es

def preorderAll : List Menu → List Menu
  | [] => []
  | m :: ms => preorder m ++ preorderAll ms

end

end Menu

end PageStencil
