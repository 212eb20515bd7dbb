import PageStencil.Json.Value

/-! Links, and their JSON form. A link without an address is plain text with the same decoration. -/

namespace PageStencil

structure Link where
  text : Option String := none
  href : Option String := none
  icon : Option String := none
  cssClass : Option String := none
  id : Option String := none
  rel : Option String := none
  target : Option String := none
  deriving DecidableEq, Inhabited, Repr

namespace Link

def fields (l : Link) : List (String × Option String) :=
  [("text", l.text), ("href", l.href), ("icon", l.icon), ("css_class", l.cssClass), ("id", l.id),
    ("rel", l.rel), ("target", l.target)]

def given (l : Link) : List (String × String) :=
  l.fields.filterMap fun (name, value) => value.map (name, ·)

def toJson (l : Link) : Json := .object (l.given.map fun (name, value) => (name, .text value))

def toFullJson (l : Link) : Json :=
  .object (l.fields.map fun (name, value) => (name, Json.ofOption .text value))

end Link

end PageStencil
