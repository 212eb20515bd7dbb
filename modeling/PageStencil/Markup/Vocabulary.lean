import PageStencil.Markup.Tag
import PageStencil.Text.LowerCase

/-! What element and attribute names mean: which elements stand alone, keep their blanks, or hold raw text, which
attributes hold a list of tokens, and which ones name an encoding. In XML any empty element stands alone, and no name
means anything else. -/

namespace PageStencil.Markup

def voidNames : List String :=
  ["area", "base", "br", "col", "embed", "hr", "img", "input", "keygen", "link", "menuitem", "meta", "param",
    "source", "track", "wbr", "basefont", "bgsound", "command", "frame", "image", "isindex", "nextid", "spacer"]

def isVoid (name : String) : Bool := voidNames.contains name

def keepsBlanks (name : String) : Bool := name == "pre" || name == "textarea"

def holdsRawText (name : String) : Bool := name == "script" || name == "style"

def listValuedAnywhere : List String := ["class", "accesskey", "dropzone"]

def listValuedOn (element : String) : List String :=
  match element with
  | "a" | "link" => ["rel", "rev"]
  | "td" | "th" => ["headers"]
  | "form" => ["accept-charset"]
  | "object" => ["archive"]
  | "area" => ["rel"]
  | "icon" => ["sizes"]
  | "iframe" => ["sandbox"]
  | "output" => ["for"]
  | _ => []

def isListValued (element name : String) : Bool :=
  listValuedAnywhere.contains name || (listValuedOn (Text.lower element)).contains name

namespace Tag

def standsAlone (t : Tag) : Bool := t.isXml || isVoid t.name

def keepsBlanks (t : Tag) : Bool := !t.isXml && Markup.keepsBlanks t.name

def splitValue (element name : String) : Value → Value
  | .text s => if isListValued element name then .tokens (Text.wordsOf s) else .text s
  | v => v

def asContentType : Value → Value
  | .text s => .contentType s
  | v => v

def tokensOrText : Value → List String
  | .tokens ts => ts
  | v => [v.plain]

def tellsContentType (t : Tag) : Bool :=
  ((t.get? "http-equiv").map tokensOrText).getD [] |>.any fun s => Text.lower s == "content-type"

def markEncoding (t : Tag) : Tag :=
  if t.name != "meta" then t
  else match t.get? "charset", t.get? "content" with
    | some v, _ => t.set "charset" (.charset v.plain)
    | none, some v => if t.tellsContentType then t.set "content" (asContentType v) else t
    | none, none => t

def ofValues (name : String) (attributes : List (String × Value)) : Tag :=
  markEncoding { name, attributes := attributes.map fun (n, v) => (n, splitValue name n v) }

def ofTexts (name : String) (attributes : List (String × String)) : Tag :=
  ofValues name (attributes.map fun (n, s) => (n, .text s))

end Tag

end PageStencil.Markup
