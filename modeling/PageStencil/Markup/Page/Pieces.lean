import PageStencil.Markup.Page.Nesting
import PageStencil.Markup.Page.Token
import PageStencil.Markup.Piece
import PageStencil.Markup.Refusal

/-!
Pieces of a page. The elements `html`, `head` and `body` are there even if no tag opens them; a second tag of theirs is
left out, and so is an end tag for it. An opening first closes the innermost elements that it cannot stand in.
-/

namespace PageStencil.Markup.Page

/-- The names of the open elements, the innermost first; how many tags were misplaced and wait for their ends; and
whether there has been a head and a body. -/
structure Reader where
  names : List String := []
  misplaced : Nat := 0
  headSeen : Bool := false
  bodySeen : Bool := false
  deriving DecidableEq, Inhabited, Repr

structure Draft where
  reader : Reader := {}
  pieces : List Piece := []

namespace Draft

def emit (d : Draft) (p : Piece) : Draft := { d with pieces := p :: d.pieces }

def enter (d : Draft) (tag : Tag) : Draft where
  pieces := .opening tag :: d.pieces
  reader := { d.reader with
    names := tag.name :: d.reader.names
    headSeen := d.reader.headSeen || tag.name == "head"
    bodySeen := d.reader.bodySeen || tag.name == "body" }

def leave (d : Draft) : Draft :=
  match d.reader.names with
  | [] => d
  | n :: ns => ⟨{ d.reader with names := ns }, .close n :: d.pieces⟩

def leaveWhile (p : String → Bool) : Nat → Draft → Draft
  | 0, d => d
  | fuel + 1, d => if d.reader.names.head?.any p then leaveWhile p fuel d.leave else d

def leaveAll (p : String → Bool) (d : Draft) : Draft := d.leaveWhile p d.reader.names.length

def makeRoom (d : Draft) (name : String) : Draft := d.leaveAll fun n => (closers n).contains name

def enterNamed (d : Draft) (name : String) : Draft := d.enter { name }

def imply (d : Draft) (name : String) : Draft :=
  if name = "html" then d
  else
    let d := if d.reader.names.isEmpty then d.enterNamed "html" else d
    if name = "head" ∨ name = "body" then d
    else if d.reader.names.length ≤ 1 && belongsToHead name then
      if d.reader.headSeen || d.reader.bodySeen then d else d.enterNamed "head"
    else if replacesBody name || d.reader.bodySeen || d.reader.names.contains "head" then d
    else d.enterNamed "body"

def isMisplaced (d : Draft) (name : String) : Bool :=
  match name with
  | "html" => !d.reader.names.isEmpty
  | "head" => d.reader.names.length != 1
  | "body" => d.reader.names.contains "body"
  | _ => false

/-- A tag for an element that is there already waits for its end once for each open body. -/
def misplacedCount (d : Draft) (name : String) : Nat :=
  if name = "body" then d.reader.names.count "body" else 1

def openTag (d : Draft) (tag : Tag) (closed : Bool) : Draft :=
  let d := (d.makeRoom tag.name).imply tag.name
  if d.isMisplaced tag.name then
    { d with reader := { d.reader with misplaced := d.reader.misplaced + d.misplacedCount tag.name } }
  else
    let d := d.enter tag
    if closed || emptyNames.contains tag.name then d.leave else d

def reaches (name : String) : List String → Bool
  | [] => false
  | n :: ns => n == name || (weight n ≤ weight name && reaches name ns)

def closeTag (d : Draft) (name : String) : Draft :=
  if 0 < d.reader.misplaced && isFrame name then
    { d with reader := { d.reader with misplaced := d.reader.misplaced - 1 } }
  else if reaches name d.reader.names then (d.leaveAll (· != name)).leave
  else d

def addText (d : Draft) (s : List Char) : Draft := if s.isEmpty then d else d.emit (.text s)

def putText (d : Draft) (s : List Char) : Draft :=
  if d.reader.names.head?.all fun n => n == "html" || n == "head" then
    let d := d.addText (s.takeWhile Token.isSeparator)
    match s.dropWhile Token.isSeparator with
    | [] => d
    | r =>
      let d := if d.reader.names.head? = some "head" then d.makeRoom "p" else d
      (d.imply "p").addText r
  else d.addText s

def attributeName (name : String) : Except Refusal String :=
  match name.toList with
  | '\x7b' :: s =>
    if s.contains '\x7d' then
      let rest := (s.dropWhile (· != '\x7d')).drop 1
      .ok (if rest.isEmpty then "None" else String.ofList rest)
    else .error .openNamespace
  | _ => .ok name

def firstOfEach (as : List (String × String)) : List (String × String) :=
  as.foldl (fun kept a => if kept.any (·.1 == a.1) then kept else kept ++ [a]) []

def tagOf (name : String) (as : List (String × String)) : Except Refusal Tag := do
  let named ← (firstOfEach as).mapM fun (n, v) => (attributeName n).map (·, v)
  return Tag.ofTexts name (named.foldl (fun done (n, v) =>
    if done.any (·.1 == n) then done.map fun a => if a.1 == n then (n, v) else a else done ++ [(n, v)]) [])

def add (d : Draft) : Token → Except Refusal Draft
  | .opening n as closed => do return d.openTag (← tagOf n as) closed
  | .closing n => .ok (d.closeTag n)
  | .text s => .ok (d.putText s)
  | .comment s => .ok (d.emit (.aside .comment s))
  | .doctype s => .ok (d.emit (.leaf (.aside .doctype (String.ofList s))))

end Draft

def pieces (s : List Char) : Except Refusal (List Piece) := do
  let d ← (Token.scanAll s).foldlM Draft.add {}
  return d.pieces.reverse

end PageStencil.Markup.Page
