import PageStencil.Markup.Classes
import PageStencil.Markup.Tree
import PageStencil.Markup.Vocabulary

/-! Buttons. Each has the class `btn`, with others behind it. -/

namespace PageStencil

open Markup

structure Button where
  label : Option String := none
  cssClass : Option String := none
  id : Option String := none
  dataTarget : Option String := none
  type : String := "button"
  dataDismiss : Option String := none
  deriving DecidableEq, Inhabited, Repr

namespace Button

def tag (b : Button) : Tag :=
  let t := (Tag.ofTexts "button" [("type", b.type), ("class", "btn")]).addClasses (.ofText? b.cssClass)
  ((t.setText? "id" b.id).setText? "data-target" b.dataTarget).setText? "data-dismiss" b.dataDismiss

def tree (b : Button) : Markup.Tree Unit := .element () b.tag (b.label.map fun s => .leaf () (.text s)).toList

end Button

end PageStencil
