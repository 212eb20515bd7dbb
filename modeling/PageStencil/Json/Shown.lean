import PageStencil.Json.Value
import PageStencil.Number.Shortest
import PageStencil.Text.Quoted

/-! The text by which a message shows a JSON value. -/

namespace PageStencil.Json

mutual

def shown : Json → String
  | null => "None"
  | bool true => "True"
  | bool false => "False"
  | integer n => toString n
  | real x => String.ofList (x.write "nan" "inf")
  | text s => Text.quoted s
  | list vs => "[" ++ ", ".intercalate (shownAll vs) ++ "]"
  | object fs => "\x7b" ++ ", ".intercalate (shownFields fs) ++ "\x7d"

def shownAll : List Json → List String
  | [] => []
  | v :: vs => shown v :: shownAll vs

def shownFields : List (String × Json) → List String
  | [] => []
  | (name, v) :: fs => (Text.quoted name ++ ": " ++ shown v) :: shownFields fs

end

end PageStencil.Json
