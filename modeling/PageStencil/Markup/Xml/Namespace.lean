import PageStencil.Markup.Vocabulary
import PageStencil.Markup.Xml.Scanner

/-!
Namespaces of XML. A prefix means the namespace that the nearest element around binds it to. What is written in front
of a name is the latest prefix of its namespace, and nothing if it has none.
-/

namespace PageStencil.Markup.Xml

abbrev Bindings := List (String × String)

abbrev Scope := List Bindings

def outermost : Scope := [[("xml", "xml")]]

def bindingsOf (as : List (Name × String)) : Bindings :=
  as.filterMap fun (n, v) =>
    if n.space = "xmlns" then some (n.base, v)
    else if n.space = "" ∧ n.base = "xmlns" then some ("", v)
    else none

def isBinding (n : Name) : Bool := n.space == "xmlns" || (n.space == "" && n.base == "xmlns")

def Scope.namespace? (s : Scope) (mark : String) : Option String :=
  (s.findSome? fun b => b.lookup mark).filter fun n => !n.isEmpty

def Scope.mark (s : Scope) (space : String) : String :=
  (s.findSome? fun b => (b.reverse.find? fun e => e.2 == space).map (·.1)).getD ""

def Scope.markOf (s : Scope) (mark : String) : String := ((s.namespace? mark).map s.mark).getD ""

def Scope.attributeName (s : Scope) (n : Name) : String :=
  let mark := if n.space.isEmpty then "" else s.markOf n.space
  if mark.isEmpty then n.base else mark ++ ":" ++ n.base

def bindingAttribute (b : String × String) : String × String :=
  (if b.1.isEmpty then "xmlns" else "xmlns:" ++ b.1, b.2)

def putText (as : List (String × String)) (a : String × String) : List (String × String) :=
  if as.any (·.1 == a.1) then as.map fun b => if b.1 == a.1 then a else b else as ++ [a]

def Scope.tagOf (s : Scope) (t : StartTag) : Tag :=
  let first := t.attributes.foldl (fun (kept : List (Name × String)) a =>
    if kept.any (·.1 == a.1) then kept else kept ++ [a]) []
  let plain := (first.filter fun a => !isBinding a.1).map fun (n, v) => (s.attributeName n, v)
  { name := t.name.base
    attributes := ((plain ++ (bindingsOf first).map bindingAttribute).foldl putText []).map fun (n, v) => (n, .text v)
    space := s.markOf t.name.space
    isXml := true }

end PageStencil.Markup.Xml
