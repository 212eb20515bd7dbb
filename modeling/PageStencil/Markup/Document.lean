import PageStencil.Markup.Fragment.Pieces
import PageStencil.Markup.Page.Pieces
import PageStencil.Markup.Xml.Pieces

namespace PageStencil.Markup

inductive Dialect
  | asWritten
  | page
  | xml
  deriving DecidableEq, Repr

namespace Dialect

def ofName? (name : String) : Option Dialect :=
  if ["lxml", "lxml-html", "html", "fast", "permissive"].contains name then some page
  else if ["html.parser", "strict"].contains name then some asWritten
  else if ["xml", "lxml-xml"].contains name then some xml
  else none

def pieces : Dialect → List Char → Except Refusal (List Piece)
  | asWritten, s => Fragment.pieces s
  | page, s => Page.pieces s
  | xml, s => .ok (Xml.pieces s)

end Dialect

namespace Document

def read (d : Dialect) (text : List Char) : Except Refusal (Tree Unit) :=
  let text := match text with
    | '\uFEFF' :: t => t
    | t => t
  (d.pieces text).map ofPieces

end Document

end PageStencil.Markup
