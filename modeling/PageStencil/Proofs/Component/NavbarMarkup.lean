import PageStencil.Component.Navbar
import PageStencil.Proofs.Stencil.Lookup

/-!
The markup of navigation bars. A template is given by its tags, each of which has a place of its own; the bar that is
made from it is told by the menus that it shows and by the first identifier that it takes.
-/

namespace PageStencil.Navbar

open Markup Stencil

structure Tags where
  nav : Tag
  positioning : Tag
  brand : Tag
  toggler : Tag
  icon : Tag
  content : Tag
  container : Tag
  item : Tag
  itemLink : Tag
  dropdown : Tag
  dropdownText : Tag
  dropdownMenu : Tag
  dropdownItem : Tag

structure Tags.Marked (T : Tags) (name : String) : Prop where
  nav : markers name T.nav = []
  positioning : markers name T.positioning = ["positioning"]
  brand : markers name T.brand = ["brand-link"]
  toggler : markers name T.toggler = ["toggler"]
  icon : markers name T.icon = []
  content : markers name T.content = ["content"]
  container : markers name T.container = ["container"]
  item : markers name T.item = ["item"]
  itemLink : markers name T.itemLink = ["item-link"]
  dropdown : markers name T.dropdown = ["dropdown"]
  dropdownText : markers name T.dropdownText = ["dropdown-text"]
  dropdownMenu : markers name T.dropdownMenu = ["dropdown-container"]
  dropdownItem : markers name T.dropdownItem = ["dropdown-item", "dropdown-link"]

def lineBreak : Leaf := .text "\n"

def gap : Markup.Tree Unit := .leaf () lineBreak

def words (s : String) : Markup.Tree Unit := .leaf () (.text s)

namespace Tags

variable (T : Tags)

def itemWith (link : Markup.Tree Unit) : Markup.Tree Unit := .element () T.item [gap, link, gap]

def itemMould : Markup.Tree Unit := T.itemWith (.element () T.itemLink [words "Link"])

def dropdownItemMould : Markup.Tree Unit := .element () T.dropdownItem [words "Action"]

def dropdownMould : Markup.Tree Unit :=
  .element () T.dropdown [gap, .element () T.dropdownText [words "Dropdown"], gap,
    .element () T.dropdownMenu [gap, T.dropdownItemMould, gap], gap]

def containerMould : Markup.Tree Unit := .element () T.container [gap, T.itemMould, gap, T.dropdownMould, gap]

def togglerTree (tag : Tag) : Markup.Tree Unit := .element () tag [gap, .element () T.icon [], gap]

def barWith (nav : Tag) (boxed : Bool) (inner : List (Markup.Tree Unit)) : Markup.Tree Unit :=
  .element () nav (gap :: ((if boxed then [.element () T.positioning inner] else inner) ++ [gap]))

def template : Markup.Tree Unit :=
  T.barWith T.nav true [gap, .element () T.brand [words "Brand"], gap, T.togglerTree T.toggler, gap,
    .element () T.content [gap, T.containerMould, gap], gap]

end Tags

/-- A link in the place of another one; without a label the old one stays. -/
def linkMarkup (tag : Tag) (placeholder : String) : Option Link → Markup.Tree Unit
  | none => .element () tag [words placeholder]
  | some l => .element () (tag.merge l.tag) l.contents

def identifier (value : Int) : String := kind ++ "-" ++ toString value

def dropdowns (entries : List Menu) : Nat := (entries.filter fun m => !m.isLeaf).length

namespace Tags

variable (T : Tags)

def itemMarkup (label : Option Link) : Markup.Tree Unit := T.itemWith (linkMarkup T.itemLink "Link" label)

def dropdownMarkup (uid : String) (m : Menu) : Markup.Tree Unit :=
  .element () T.dropdown [gap,
    .element () (T.dropdownText.set "id" (.text uid)) [words ((m.label.bind Link.text).getD "Dropdown")], gap,
    .element () ((T.dropdownMenu.set "aria-labelledby" (.text uid)).addClasses (.ofText? m.cssClass))
      (gap :: gap :: m.entries.map fun e => linkMarkup T.dropdownItem "Action" e.label), gap]

def entriesMarkup (value : Int) : List Menu → List (Markup.Tree Unit)
  | [] => []
  | m :: ms =>
    if m.isLeaf then T.itemMarkup m.label :: entriesMarkup value ms
    else T.dropdownMarkup (identifier value) m :: entriesMarkup (value + 1) ms

def partMarkup (value : Int) (first : Bool) (m : Menu) : Markup.Tree Unit :=
  .element () (align first m.cssClass T.container) (gap :: gap :: gap :: T.entriesMarkup value m.entries)

def partsMarkup (value : Int) (first : Bool) : List Menu → List (Markup.Tree Unit)
  | [] => []
  | m :: ms => T.partMarkup value first m :: partsMarkup (value + dropdowns m.entries) false ms

def brandMarkup : Option Link → List (Markup.Tree Unit)
  | none => []
  | some l => [.element () (T.brand.merge l.tag) l.contents]

def markup (cssClass : Option String) (boxed : Bool) (value : Int) (parts : List Menu) : Markup.Tree Unit :=
  T.barWith (T.nav.addClasses (.ofText? cssClass)) boxed
    (gap :: T.brandMarkup (parts.head?.bind Menu.label) ++ [gap,
      T.togglerTree (T.toggler.set "data-target" (.text ("#" ++ identifier value))), gap,
      .element () (T.content.set "id" (.text (identifier value)))
        (gap :: gap :: T.partsMarkup (value + 1) true parts), gap])

end Tags

end PageStencil.Navbar
