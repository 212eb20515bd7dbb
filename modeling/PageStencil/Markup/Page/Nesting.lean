/-!
How elements of a page nest: which ones an opening closes, which ones an end tag may close on its way to its own
element, and which ones stand in the head.
-/

namespace PageStencil.Markup.Page

def emptyNames : List String :=
  ["area", "base", "basefont", "br", "col", "frame", "hr", "img", "input", "isindex", "link", "meta", "param"]

def headings : List String := ["h1", "h2", "h3", "h4", "h5", "h6"]

def endsHead : List String :=
  ["a", "abbr", "acronym", "address", "b", "bdo", "big", "blockquote", "body", "br", "center", "cite", "code", "dd",
    "dfn", "dir", "div", "dl", "dt", "em", "fieldset", "font", "form", "frameset", "hr", "i", "iframe", "img", "kbd",
    "li", "listing", "map", "menu", "ol", "p", "pre", "q", "s", "samp", "small", "span", "strike", "strong", "sub",
    "sup", "table", "tt", "u", "ul", "var", "xmp"]

def endsParagraph : List String :=
  ["address", "blockquote", "body", "caption", "center", "col", "colgroup", "dd", "dir", "div", "dl", "dt", "fieldset",
    "form", "frameset", "head", "hr", "li", "listing", "menu", "multicol", "ol", "p", "pre", "table", "tbody", "td",
    "tfoot", "th", "title", "tr", "ul", "xmp"]

def closers (name : String) : List String :=
  match name with
  | "a" => ["a", "fieldset", "table", "td", "th"]
  | "address" => ["dd", "dl", "dt", "form", "li", "ul"]
  | "b" => ["center", "p", "td", "th"]
  | "big" => ["p"]
  | "caption" | "col" => ["col", "colgroup", "tbody", "tfoot", "thead", "tr"]
  | "colgroup" => ["colgroup", "tbody", "tfoot", "thead", "tr"]
  | "dd" => ["dt"]
  | "dir" => ["dd", "dl", "dt", "form", "ul"]
  | "dl" => ["form", "li"]
  | "dt" => ["dd", "dl"]
  | "font" => ["center", "td", "th"]
  | "form" => ["form"]
  | "h1" | "h2" | "h3" | "h4" | "h5" | "h6" => ["fieldset", "form", "li", "p", "table"]
  | "head" => headings ++ endsHead
  | "hr" => ["form"]
  | "i" => ["center", "p"]
  | "legend" => ["fieldset"]
  | "li" => ["li"]
  | "link" | "style" | "title" => ["body", "frameset"]
  | "listing" | "pre" | "xmp" => ["dd", "dl", "dt", "fieldset", "form", "li", "table", "ul"]
  | "menu" => ["dd", "dl", "dt", "form", "ul"]
  | "ol" => ["form"]
  | "option" => ["optgroup", "option"]
  | "p" => headings ++ endsParagraph
  | "s" | "small" | "strike" | "tt" => ["p"]
  | "script" => ["noscript"]
  | "span" => ["td", "th"]
  | "tbody" => ["tbody", "tfoot"]
  | "td" | "th" => ["tbody", "td", "tfoot", "th", "tr"]
  | "tfoot" => ["tbody"]
  | "thead" => ["tbody", "tfoot"]
  | "tr" => ["tbody", "tfoot", "tr"]
  | "u" => ["p", "td", "th"]
  | "ul" => ["address", "form", "menu", "ol", "pre"]
  | _ => []

/-- An end tag passes over no element of a greater weight than its own. -/
def weight (name : String) : Nat :=
  match name with
  | "div" => 150
  | "td" | "th" => 160
  | "tr" => 170
  | "thead" | "tbody" | "tfoot" => 180
  | "table" => 190
  | "head" | "body" => 200
  | "html" => 220
  | _ => 100

def belongsToHead (name : String) : Bool :=
  ["script", "style", "meta", "link", "title", "base"].contains name

def replacesBody (name : String) : Bool := ["noframes", "frame", "frameset"].contains name

def isFrame (name : String) : Bool := ["html", "head", "body"].contains name

end PageStencil.Markup.Page
