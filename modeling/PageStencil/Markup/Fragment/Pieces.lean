import PageStencil.Markup.Fragment.Report
import PageStencil.Markup.Piece

/-!
Pieces from reports. A void element is closed at once, and its name is kept on a list: a later end tag of that name is
crossed off the list and closes nothing, even if it comes with a start tag that is closed in itself.
-/

namespace PageStencil.Markup.Fragment

def lastOfEach (as : List (String × String)) : List (String × String) :=
  as.foldl (fun kept (n, v) =>
    if kept.any (·.1 == n) then kept.map fun a => if a.1 == n then (n, v) else a else kept ++ [(n, v)]) []

def endPiece (listed : List String) (name : String) : List Piece × List String :=
  if listed.contains name then ([], listed.erase name) else ([.close name], listed)

def piecesFrom (listed : List String) : List Report → List Piece
  | [] => []
  | .opening n as closed :: rs =>
    let tag := Tag.ofTexts n (lastOfEach as)
    if closed then
      let (ps, listed) := endPiece listed n
      .opening tag :: (ps ++ piecesFrom listed rs)
    else if isVoid n then .opening tag :: .close n :: piecesFrom (listed ++ [n]) rs
    else .opening tag :: piecesFrom listed rs
  | .closing n :: rs =>
    let (ps, listed) := endPiece listed n
    ps ++ piecesFrom listed rs
  | .text s :: rs => .text s :: piecesFrom listed rs
  | .aside k s :: rs => .aside k s :: piecesFrom listed rs

def pieces (s : List Char) : Except Refusal (List Piece) := (Report.read s).map (piecesFrom [])

end PageStencil.Markup.Fragment
