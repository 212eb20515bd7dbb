import PageStencil.Text.Blank

namespace PageStencil.Markup

def encodingName : String := "utf-8"

def charsetMark : List Char := "charset=".toList

/-- A content type with the names of its encodings replaced. A name counts at the start or behind a blank or a
semicolon, which is what `free` tells; it reaches up to a semicolon, and `skipping` tells that it is passed over. -/
def renameFrom (free skipping : Bool) : List Char → List Char
  | [] => []
  | c :: s =>
    if skipping && c != ';' then renameFrom false true s
    else if free && charsetMark.isPrefixOf (c :: s) then charsetMark ++ encodingName.toList ++ renameFrom false true s
    else c :: renameFrom (c == ';' || Text.isBlank c) false s

def renameEncoding (contentType : String) : String := String.ofList (renameFrom true false contentType.toList)

end PageStencil.Markup
